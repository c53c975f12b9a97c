import TestFleet.Shell.Condition
import TestFleet.Shell.Fields
import TestFleet.Shell.Mode
import TestFleet.Shell.Parser
import TestFleet.Shell.Printing
/-!
# Commands that a shell carries out itself

These act on the shell's own state: its variables, its options, its directory, its jobs and its
end. A command refuses what it cannot do, which ends the shell if the command is a special one.
Those that run other commands are not among them.
-/
namespace TestFleet.Shell.Builtin

/-- The signals that can be named. -/
def signals : List (Nat × String) :=
  [(1, "HUP"), (2, "INT"), (3, "QUIT"), (4, "ILL"), (5, "TRAP"), (6, "ABRT"), (7, "BUS"),
    (8, "FPE"), (9, "KILL"), (10, "USR1"), (11, "SEGV"), (12, "USR2"), (13, "PIPE"), (14, "ALRM"),
    (15, "TERM"), (16, "16"), (17, "CHLD"), (18, "CONT"), (19, "STOP"), (20, "TSTP"),
    (21, "TTIN"), (22, "TTOU"), (23, "URG"), (24, "XCPU"), (25, "XFSZ"), (26, "VTALRM"),
    (27, "PROF"), (28, "WINCH"), (29, "IO"), (30, "PWR"), (31, "SYS")]

/-- The number of signals, one more than the greatest number. -/
def signalCount : Nat := 65

/-- The name of a signal, or of the exit for 0. -/
def signalName (n : Nat) : String :=
  if n == 0 then "EXIT"
  else
    match signals.lookup n with
    | some name => name
    | none =>
      if n ≤ 33 then toString n
      else if n == 34 then "RTMIN"
      else if n == 64 then "RTMAX"
      else if n < 50 then "RTMIN+" ++ toString (n - 34)
      else "RTMAX-" ++ toString (64 - n)

/-- The number that a text of digits writes. -/
def digits? (s : String) : Option Nat :=
  if !s.isEmpty && s.toList.all Char.isDigit then s.toNat? else none

/-- The number of a signal that is given by number or by name. -/
def signal? (least : Nat) (s : String) : Option Nat :=
  match digits? s with
  | some n => if n < signalCount then some n else none
  | none =>
    let name := String.ofList (s.toList.map Char.toUpper)
    ((List.range signalCount).drop least).find? fun n => signalName n == name

/-- Signals that do nothing to a shell. -/
def harmless (signal : Nat) : Bool := [0, 17, 18, 23, 28].contains signal

/-- A number that may not be negative. -/
def number (s : String) : Doing Nat := do
  match Condition.integer s with
  | .ok n =>
    if n < 0 || (Nat.pow 2 31 : Nat) ≤ n then refuse ("Illegal number: " ++ s) else pure n.toNat
  | .error e => refuse e

/-- The options at the front of some arguments, each with its own argument if it takes one, and the
other arguments. -/
def optionsFrom (plain valued : List Char) :
    Nat → List String → Except String (List (Char × String) × List String)
  | 0, args => .ok ([], args)
  | fuel + 1, args =>
    match args with
    | [] => .ok ([], [])
    | a :: rest =>
      match a.toList with
      | ['-'] => .ok ([], args)
      | ['-', '-'] => .ok ([], rest)
      | '-' :: c :: more =>
        if valued.contains c then
          match more, rest with
          | [], [] => .error ("No arg for -" ++ String.singleton c ++ " option")
          | [], value :: rest => do
            let (os, rest) ← optionsFrom plain valued fuel rest
            .ok ((c, value) :: os, rest)
          | _, _ => do
            let (os, rest) ← optionsFrom plain valued fuel rest
            .ok ((c, String.ofList more) :: os, rest)
        else if plain.contains c then do
          let next := if more.isEmpty then rest else String.ofList ('-' :: more) :: rest
          let (os, rest) ← optionsFrom plain valued fuel next
          .ok ((c, "") :: os, rest)
        else .error ("Illegal option -" ++ String.singleton c)
      | _ => .ok ([], args)

/-- The options and the other arguments of a command that takes these options. -/
def options (plain valued : List Char) (args : List String) :
    Doing (List (Char × String) × List String) := do
  match optionsFrom plain valued ((args.map (·.length)).foldl (· + ·) args.length + 1) args with
  | .ok r => pure r
  | .error e => refuse e

/-- A text between single quotes; a single quote in it stands between double quotes. -/
def singleQuoted (s : String) : String :=
  let rec go : Nat → List Char → List Char
    | 0, _ => []
    | fuel + 1, cs =>
      let plain := cs.takeWhile (· != '\'')
      let rest := cs.drop plain.length
      let quotes := rest.takeWhile (· == '\'')
      let more := rest.drop quotes.length
      '\'' :: plain ++ ['\''] ++
        (if quotes.isEmpty then []
        else '"' :: quotes ++ ['"'] ++ (if more.isEmpty then [] else go fuel more))
  String.ofList (go (s.length + 1) s.toList)

/-- Refuses what is no name of a variable. -/
def requireName (name : String) : Doing Unit := do
  if !isName name then refuse (name ++ ": bad variable name")

/-- The name and the value of an argument that sets a variable, if it gives one. -/
def setting (arg : String) : String × Option String :=
  let name := arg.toList.takeWhile (· != '=')
  (String.ofList name,
    match arg.toList.drop name.length with
    | _ :: value => some (String.ofList value)
    | [] => none)

/-- Ends the shell. -/
def exit (args : List String) : Doing Nat := do
  match args with
  | [] => do
    let s ← get
    throw (.exit (s.kept.getD s.status))
  | a :: _ => throw (.exit (← number a))

/-- Ends a function. -/
def return_ (args : List String) : Doing Nat := do
  match args with
  | [] => throw (.return (← get).status)
  | a :: _ => throw (.return (← number a))

/-- Leaves loops, or goes on with their next round. -/
def leave (stop : Nat → Stop) (args : List String) : Doing Nat := do
  let n ← match args with
    | [] => pure 1
    | a :: _ => number a
  if n == 0 then refuse ("Illegal number: " ++ args.headD "")
  let loops := (← get).loops
  if loops == 0 then pure 0 else throw (stop (min n loops))

/-- A path from the root, its parts those of a directory and of a path below it; `..` takes away
the part before it. -/
def walked (directory path : String) : String :=
  let step (at_ : List String) (name : String) : List String :=
    if name == ".." then at_.dropLast else at_ ++ [name]
  let start := if Files.isAbsolute path then [] else Files.parts directory
  "/" ++ "/".intercalate ((Files.parts path).foldl step start)

/-- Changes the directory to what a path leads to; says whether that is possible. -/
def goTo (physical : Bool) (path : String) : Doing Bool := do
  let s ← get
  let logical := walked s.directory path
  let target := if physical then (if path.isEmpty then "." else path) else logical
  match s.find target with
  | .ok (place, .directory) =>
    if !s.tree.permits .search place then return false
    let directory :=
      if physical then "/" ++ "/".intercalate (place.map Text.Bytewise.ofText) else logical
    modify fun t => { t with
      disk := { t.disk with tree := { t.disk.tree with current := place } }
      directory := directory }
    assign "OLDPWD" s.directory
    assign "PWD" directory
    modify fun t => { t with vars := t.vars.map fun (n, v) =>
      (n, if n == "PWD" || n == "OLDPWD" then { v with exported := true } else v) }
    pure true
  | _ => pure false

/-- Changes the directory. -/
def cd (args : List String) : Doing Nat := do
  let (os, rest) ← options ['L', 'P'] [] args
  let physical := (os.getLast?.map (·.1)) == some 'P'
  let s ← get
  let (target, shown) : String × Bool :=
    match rest with
    | [] => ((s.var? "HOME").getD "", false)
    | "-" :: _ => ((s.var? "OLDPWD").getD "", true)
    | a :: _ => (a, false)
  let first := (Text.splitOnChar '/' target).headD ""
  let searched := !Files.isAbsolute target && first != "." && first != ".."
  let wanted := if searched && target.isEmpty then "." else target
  let places : List String :=
    if searched then
      match s.var? "CDPATH" with
      | some p => Text.splitOnChar ':' p
      | none => [""]
    else []
  let isDirectory (path : String) : Bool :=
    match s.find path with | .ok (_, .directory) => true | _ => false
  let below (p : String) : String := if p.isEmpty then wanted else Files.join p wanted
  let chosen := places.find? fun p => isDirectory (below p)
  let path := match chosen with | some p => below p | none => wanted
  if ← goTo physical path then
    if shown || (chosen.map fun p => !p.isEmpty).getD false then
      say 1 ((← get).directory ++ "\n")
    pure 0
  else refuse ("can't cd to " ++ target)

/-- Shows the directory. -/
def pwd (args : List String) : Doing Nat := do
  let (os, _) ← options ['L', 'P'] [] args
  let s ← get
  let physical := (os.getLast?.map (·.1)) == some 'P'
  say 1 ((if physical then "/" ++ "/".intercalate (s.tree.current.map Text.Bytewise.ofText)
    else s.directory) ++ "\n")
  pure 0

/-- The job that a text names, or why there is none. The jobs of a shell without a terminal have
no names of their own. -/
def jobNamed (s : Session) (name : String) : Except String Job :=
  let unknown := "No such job: " ++ name
  match name.toList with
  | '%' :: more =>
    match more with
    | [] | ['%'] | ['+'] => (s.jobs.getLast?.map .ok).getD (.error "No current job")
    | ['-'] => (s.jobs.dropLast.getLast?.map .ok).getD (.error "No previous job")
    | ['?'] =>
      match s.jobs with
      | [] => .error unknown
      | [j] => .ok j
      | _ => .error (name ++ ": ambiguous")
    | _ =>
      match (digits? (String.ofList more)).bind fun n => s.jobs.find? (·.number == n) with
      | some j => .ok j
      | none => .error unknown
  | _ => .error unknown

/-- The job that a text names. -/
def job (name : String) : Doing Job := do
  match jobNamed (← get) name with
  | .ok j => pure j
  | .error why => refuse why

/-- Brings a job to the front or lets it go on, for which the shell would need a terminal. -/
def resume (args : List String) : Doing Nat := do
  let (_, args) ← options [] [] args
  let _ ← job (args.headD "%")
  refuse ("job " ++ args.headD "(null)" ++ " not created under job control")

/-- Sends a signal to a background job. -/
def signalJob (j : Job) (signal : Nat) : Doing Unit :=
  modify fun s =>
    if s.now < j.ends && !harmless signal && (signal == 9 || !j.ignores.contains signal) then
      { s with
        jobs := s.jobs.map fun (k : Job) =>
          if k.pid == j.pid then
            { k with
              ends := s.now + Session.startTime
              status := 128 + signal
              signal := some signal }
          else k
        holders := s.holders.map fun (h : Holder) =>
          if h.pid == j.pid then { h with ends := min h.ends s.now } else h
        coming := s.coming.filter fun (e : Effect) => e.job != j.pid || e.at_ ≤ s.now
        pipes := s.pipes.map fun (n, p) =>
          (n, { p with chunks := p.chunks.filter fun c => c.job != j.pid || c.at_ ≤ s.now })
        signals := s.signals.filter fun (x : Signal) => x.at_ ≤ s.now }
    else s

/-- Sends a signal to a process. -/
def send (signal : Nat) (pid : Nat) : Doing Bool := do
  let s ← get
  if pid == s.self || pid == 0 then
    if signal != 0 then
      if signal == 9 then throw (.killed 9)
      if signal == 19 then throw .unending
      match s.traps.lookup signal with
      | some _ => modify fun t => { t with signals := t.signals ++ [⟨s.self, s.now, signal⟩] }
      | none => if !harmless signal then throw (.killed signal)
    pure true
  else if pid == s.pid || pid < s.pid && 1 < pid then
    modify fun t => { t with signals := t.signals ++ [⟨pid, s.now, signal⟩] }
    pure true
  else
    match s.jobs.find? fun j => j.pid == pid && s.seen < j.ends with
    | some j =>
      signalJob j signal
      pure true
    | none => pure false

/-- Lists the names of signals, or the one that a status stands for. -/
def listSignals (args : List String) : Doing Nat := do
  match args with
  | [] =>
    let numbers := (List.range signalCount).drop 1
    say 1 ("0\n" ++ String.join (numbers.map fun n => signalName n ++ "\n"))
  | a :: _ =>
    let n ← number a
    let n := if 128 < n then n - 128 else n
    if n == 0 || signalCount ≤ n then
      refuse ("invalid signal number or exit status: " ++ a)
    say 1 (signalName n ++ "\n")
  pure 0

/-- How `kill` is called. -/
def killUsage : String :=
  "Usage: kill [-s sigspec | -signum | -sigspec] [pid | job]... or\nkill -l [exitstatus]"

/-- Sends signals. -/
def kill (args : List String) : Doing Nat := do
  let direct : Option (Nat × List String) :=
    match args with
    | a :: rest =>
      match a.toList with
      | '-' :: name => (signal? 1 (String.ofList name)).map (·, rest)
      | _ => some (15, args)
    | [] => none
  let (signal, targets) ←
    match direct with
    | some r => pure r
    | none =>
      let (os, rest) ← options ['l'] ['s'] args
      if os.any (·.1 == 'l') then return (← listSignals rest)
      match (os.filter (·.1 == 's')).getLast? with
      | some (_, name) =>
        match signal? 1 name with
        | some n => pure (n, rest)
        | none => refuse ("invalid signal number or name: " ++ name)
      | none => pure (15, rest)
  if targets.isEmpty then refuse killUsage
  let mut status := 0
  for t in targets do
    let reached ←
      if t.startsWith "%" then
        let _ ← job t
        pure false
      else if t.startsWith "-" then
        let _ ← number (t.drop 1).toString
        pure false
      else send signal (← number t)
    if !reached then
      complain "No such process\n"
      status := 1
  pure status

/-- The description of a signal. -/
def signalText (signal : Nat) : String :=
  match signal with
  | 1 => "Hangup"
  | 2 => "Interrupt"
  | 3 => "Quit"
  | 4 => "Illegal instruction"
  | 5 => "Trace/breakpoint trap"
  | 6 => "Aborted"
  | 7 => "Bus error"
  | 8 => "Floating point exception"
  | 9 => "Killed"
  | 10 => "User defined signal 1"
  | 11 => "Segmentation fault"
  | 12 => "User defined signal 2"
  | 13 => "Broken pipe"
  | 14 => "Alarm clock"
  | 15 => "Terminated"
  | 16 => "Stack fault"
  | 24 => "CPU time limit exceeded"
  | 25 => "File size limit exceeded"
  | 26 => "Virtual timer expired"
  | 27 => "Profiling timer expired"
  | 29 => "I/O possible"
  | 30 => "Power failure"
  | 31 => "Bad system call"
  | _ => ""

/-- Tells of a process that a signal has ended, unless it has been interrupted or nobody has read
what it wrote. -/
def mourn (signal : Nat) : Doing Unit := do
  if signal != 2 && signal != 13 then say 2 (signalText signal ++ "\n")

/-- The first signal to the shell that something is done on and that comes before a time. -/
def interruption? (s : Session) (before : Nat) : Option Signal :=
  (s.signals.filter fun x =>
    x.pid == s.self && x.at_ < before
      && (match s.traps.lookup x.number with
        | some action => !action.isEmpty
        | none => !harmless x.number)).head?

/-- Waits until a time, or until a signal comes; gives the signal. -/
def waitUntil (time : Nat) : Doing (Option Nat) := do
  let s ← get
  match interruption? s time with
  | some x =>
    pass (x.at_ - s.now)
    pure (some x.number)
  | none =>
    pass (time - s.now)
    pure none

/-- Waits for jobs to end. -/
def wait (args : List String) : Doing Nat := do
  let (_, args) ← options [] [] args
  let s ← get
  match args with
  | [] =>
    match ← waitUntil ((s.jobs.map (·.ends)).foldl max s.now) with
    | some signal => pure (128 + signal)
    | none =>
      modify fun t => { t with
        seen := t.now
        jobs := t.jobs.map fun (j : Job) => { j with waited := true } }
      pure 0
  | targets =>
    let mut status := 127
    for t in targets do
      let awaited : Option Job ←
        if t.startsWith "%" then do pure (some (← job t))
        else do
          let pid ← number t
          pure (s.jobs.find? fun j => j.pid == pid)
      match awaited with
      | some j =>
        match ← waitUntil j.ends with
        | some signal => return 128 + signal
        | none =>
          let unseen := (← get).seen < j.ends
          modify fun t => { t with
            seen := t.now
            jobs := t.jobs.map fun (k : Job) =>
              if k.number == j.number then { k with waited := true } else k }
          status := j.status
          if unseen then
            match j.signal with
            | some n => mourn n
            | none => pure ()
      | none => status := 127
    pure status

/-- Shows a job: only its process, if the letter is `p`. What has ended is then forgotten. -/
def showJob (how : Char) (j : Job) : Doing Unit := do
  let s ← get
  if how == 'p' then say 1 (toString j.pid ++ "\n")
  else
    let mark :=
      if (s.jobs.getLast?.map (·.number)) == some j.number then "+"
      else if (s.jobs.dropLast.getLast?.map (·.number)) == some j.number then "-"
      else " "
    let what :=
      if s.now < j.ends then "Running"
      else
        match j.signal with
        | some n => signalText n
        | none => if j.status == 0 then "Done" else "Done(" ++ toString j.status ++ ")"
    let process := if how == 'l' then toString j.pid ++ " " else ""
    let front := "[" ++ toString j.number ++ "] " ++ mark ++ " " ++ process ++ what
    say 1 (Text.padRight 33 front ++ String.join (List.replicate (j.parts - 1) " | ") ++ "\n")
    modify fun t => { t with jobs := t.jobs.filter fun k => k.number != j.number || t.now < k.ends }

/-- Shows the background jobs, the last started first. -/
def jobs (args : List String) : Doing Nat := do
  let (os, args) ← options ['l', 'p'] [] args
  let how := (os.getLast?.map (·.1)).getD ' '
  modify fun s => { s with seen := s.now }
  if args.isEmpty then
    for j in (← get).jobs.reverse do showJob how j
  else
    for a in args do showJob how (← job a)
  pure 0

/-- A change of a variable that need not give it a value. -/
def declare (name : String) (value : Option String) (f : Variable → Variable) : Doing Unit := do
  requireName name
  match value with
  | some v => assign name v
  | none => pure ()
  modify fun s =>
    let v := f ((s.vars.lookup name).getD ⟨none, false, false⟩)
    { s with vars := (name, v) :: s.vars.filter (·.1 != name) }

/-- Shows variables as commands that make them again. -/
def showVars (command : String) (p : Variable → Bool) : Doing Unit := do
  let s ← get
  let shown := s.vars.filter fun (_, v) => p v
  let sorted := Ascending.ofList Ascending.textBefore (shown.map (·.1))
  for n in sorted do
    match (s.vars.lookup n).bind (·.value) with
    | some v => say 1 (command ++ n ++ "=" ++ singleQuoted v ++ "\n")
    | none => say 1 (command ++ n ++ "\n")

/-- Sets variables that commands see, or that may not change any more. -/
def declaring (command : String) (f : Variable → Variable) (p : Variable → Bool)
    (args : List String) : Doing Nat := do
  let (os, rest) ← options ['p'] [] args
  if os.isEmpty && !rest.isEmpty then
    for a in rest do
      let (name, value) := setting a
      declare name value f
  else showVars (command ++ " ") p
  pure 0

/-- Sets variables that have their former values again when the function ends. -/
def local_ (args : List String) : Doing Nat := do
  if !(← get).inFunction then refuse "not in a function"
  for a in args do
    if a == "-" then
      modify fun s => { s with locals :=
        ("-", some ⟨some (String.ofList s.options), false, false⟩) :: s.locals }
    else
      let (name, value) := setting a
      requireName name
      modify fun s => { s with locals := (name, s.vars.lookup name) :: s.locals }
      match value with
      | some v => assign name v
      | none =>
        if ((← get).vars.lookup name).isNone then declare name none id
  pure 0

/-- Takes variables or functions away. -/
def unset (args : List String) : Doing Nat := do
  let (os, rest) ← options ['v', 'f'] [] args
  let functions := (os.getLast?.map (·.1)) == some 'f'
  for name in rest do
    if functions then
      modify fun s => { s with functions := s.functions.filter (·.1 != name) }
    else
      requireName name
      if (((← get).vars.lookup name).map (·.fixed)).getD false then
        refuse (name ++ ": is read only")
      modify fun s => { s with vars := s.vars.filter (·.1 != name) }
  pure 0

/-- Drops arguments from the front. -/
def shift (args : List String) : Doing Nat := do
  let n ← match args with
    | [] => pure 1
    | a :: _ => number a
  if (← get).args.length < n then refuse "can't shift that many"
  modify fun s => { s with args := s.args.drop n, optionAt := (1, 0) }
  pure 0

/-- The options of the shell: their names and letters, in the order in which they are listed. -/
def shellOptions : List (String × Char) :=
  [("errexit", 'e'), ("noglob", 'f'), ("ignoreeof", 'I'), ("interactive", 'i'), ("monitor", 'm'),
    ("noexec", 'n'), ("stdin", 's'), ("xtrace", 'x'), ("verbose", 'v'), ("vi", 'V'),
    ("emacs", 'E'), ("noclobber", 'C'), ("allexport", 'a'), ("notify", 'b'), ("nounset", 'u'),
    ("privileged", 'p'), ("nolog", 'L'), ("debug", 'D')]

/-- The options that can be named by a letter, the last one first. -/
def optionLetters : List Char :=
  ((shellOptions.map (·.2)).filter fun c => c != 'L' && c != 'D').reverse

/-- What is said of job control where there is no terminal. -/
def noTerminal : String := "can't access tty; job control turned off"

/-- Turns an option on or off. -/
def setOption (letter : Char) (on : Bool) : Doing Unit :=
  modify fun s =>
    let others := s.options.filter (· != letter)
    { s with options := if on then letter :: others else others }

/-- Shows the options, as a list or as commands that set them again. -/
def showOptions (listed : Bool) : Doing Unit := do
  let s ← get
  if listed then say 1 "Current option settings\n"
  for (name, letter) in shellOptions do
    let on := s.has letter
    say 1 (if listed then Text.padRight 16 name ++ (if on then "on" else "off") ++ "\n"
      else "set " ++ (if on then "-o " else "+o ") ++ name ++ "\n")

/-- The letters of one argument of `set`, and the arguments after it; says how many of those were
used. -/
def setLetters (on : Bool) : List Char → List String → Doing (List String)
  | [], rest => pure rest
  | 'o' :: more, rest => do
    match rest with
    | [] =>
      showOptions on
      setLetters on more []
    | name :: rest =>
      match shellOptions.lookup name with
      | some letter => setOption letter on
      | none =>
        if name == "pipefail" && (← get).dialect == .bash then pure ()
        else refuse ("Illegal option -o " ++ name)
      setLetters on more rest
  | c :: more, rest => do
    if optionLetters.contains c then setOption c on
    else if c == 'h' && (← get).dialect == .bash then pure ()
    else refuse ("Illegal option -" ++ String.singleton c)
    setLetters on more rest

/-- Sets the arguments of the shell. -/
def setArgs (args : List String) : Doing Unit :=
  modify fun s => { s with args, optionAt := (1, 0) }

/-- Changes options and arguments of the shell. -/
def setFrom : Nat → List String → Doing Unit
  | 0, _ => pure ()
  | _ + 1, [] => pure ()
  | fuel + 1, a :: rest => do
    match a.toList with
    | ['-'] =>
      setOption 'x' false
      setOption 'v' false
      if !rest.isEmpty then setArgs rest
    | ['-', '-'] => setArgs rest
    | '-' :: letters => setFrom fuel (← setLetters true letters rest)
    | '+' :: letters => setFrom fuel (← setLetters false letters rest)
    | _ => setArgs (a :: rest)

/-- Changes options and arguments of the shell, or shows its variables. -/
def set_ (args : List String) : Doing Nat := do
  if args.isEmpty then showVars "" (·.value.isSome) else setFrom (args.length + 1) args
  if (← get).has 'm' then
    complain noTerminal
    setOption 'm' false
  pure 0

/-- Says what is to be done on signals. -/
def trap (args : List String) : Doing Nat := do
  let (_, args) ← options [] [] args
  match args with
  | [] =>
    let s ← get
    for n in List.range signalCount do
      match s.traps.lookup n with
      | some action =>
        say 1 ("trap -- " ++ singleQuoted action ++ " " ++ signalName n ++ "\n")
      | none => pure ()
    pure 0
  | first :: rest =>
    let (action, names) : Option String × List String :=
      if rest.isEmpty || ((digits? first).map fun n => decide (n < signalCount)).getD false then
        (none, args)
      else if first == "-" then (none, rest)
      else (some first, rest)
    for name in names do
      match signal? 0 name with
      | none =>
        say 2 ("trap: " ++ name ++ ": bad trap\n")
        return 1
      | some n =>
        modify fun s =>
          let others := s.traps.filter (·.1 != n)
          { s with traps := match action with | some a => (n, a) :: others | none => others }
    pure 0

/-- Shows or sets the permissions that new files do not get. -/
def umask (args : List String) : Doing Nat := do
  let (os, rest) ← options ['S'] [] args
  let mask := (← get).umask
  match rest with
  | [] =>
    let allowed := 0o777 - mask
    let part (user : Nat) (name : String) : String :=
        name ++ "=" ++ String.ofList (Mode.rights allowed user)
    say 1 ((if os.isEmpty then
        String.ofList ((Nat.toDigits 8 (0o10000 + mask)).drop 1)
      else part 0 "u" ++ "," ++ part 1 "g" ++ "," ++ part 2 "o") ++ "\n")
  | mode :: _ =>
    if (mode.toList.head?.map Char.isDigit).getD false then
      match Mode.ofOctal? mode with
      | some n => modify fun s => { s with umask := n % 512 }
      | none => refuse ("Illegal number: " ++ mode)
    else
      match Mode.after? false 0 mode (0o777 - mask) with
      | some allowed => modify fun s => { s with umask := 0o777 - (allowed &&& 0o777) }
      | none => refuse ("Illegal mode: " ++ mode)
  pure 0

/-- An alias as a command that makes it again. -/
def aliasText (name text : String) : String := name ++ "=" ++ singleQuoted text ++ "\n"

/-- The shelf of 39 that a name is kept on. -/
def shelf (name : String) : Nat :=
  let ns := name.toList.map (·.toNat)
  (ns.foldl (· + ·) ((ns.headD 0) * 16)) % 39

/-- Aliases with one of them set, in its old place if it has one. -/
def withText (name text : String) (aliases : List (String × String)) : List (String × String) :=
  if (aliases.lookup name).isSome then
    aliases.map fun (n, t) => (n, if n == name then text else t)
  else aliases ++ [(name, text)]

/-- Sets or shows aliases. -/
def alias_ (args : List String) : Doing Nat := do
  let s ← get
  if args.isEmpty then
    for i in List.range 39 do
      for (name, text) in s.aliases do
        if shelf name == i then say 1 (aliasText name text)
    return 0
  let mut status := 0
  for a in args do
    let name := a.toList.take 1 ++ (a.toList.drop 1).takeWhile (· != '=')
    let n := String.ofList name
    match a.toList.drop name.length with
    | _ :: text =>
      let text := String.ofList text
      modify fun s => { s with aliases := withText n text s.aliases }
    | [] =>
      match (← get).aliases.lookup a with
      | some text => say 1 (aliasText a text)
      | none =>
        say 2 ("alias: " ++ a ++ " not found\n")
        status := 1
  pure status

/-- Takes aliases away. -/
def unalias (args : List String) : Doing Nat := do
  let (os, rest) ← options ['a'] [] args
  if !os.isEmpty then
    modify fun s => { s with aliases := [] }
    return 0
  let mut status := 0
  for a in rest do
    if ((← get).aliases.lookup a).isSome then
      modify fun s => { s with aliases := s.aliases.filter (·.1 != a) }
    else
      say 2 ("unalias: " ++ a ++ " not found\n")
      status := 1
  pure status

/-- A line of octets up to its end, a backslash keeping the character behind it unless `raw`; how
many octets were used up, and whether the line had an end. -/
def lineFrom (raw : Bool) : List UInt8 → Nat → List Letter × Nat × Bool
  | [], n => ([], n, false)
  | 10 :: _, n => ([], n + 1, true)
  | 0 :: rest, n => lineFrom raw rest (n + 1)
  | 92 :: rest, n =>
    if raw then adding ⟨'\\', false⟩ (lineFrom raw rest (n + 1))
    else
      match rest with
      | [] => ([], n + 1, false)
      | 10 :: more => lineFrom raw more (n + 2)
      | o :: more => adding ⟨Char.ofNat o.toNat, true⟩ (lineFrom raw more (n + 2))
  | o :: rest, n => adding ⟨Char.ofNat o.toNat, false⟩ (lineFrom raw rest (n + 1))
where
  /-- A line with one more character in front. -/
  adding (l : Letter) : List Letter × Nat × Bool → List Letter × Nat × Bool
    | (ls, n, ended) => (l :: ls, n, ended)

/-- Reads a line of the standard input into variables. -/
def read (args : List String) : Doing Nat := do
  let (os, names) ← options ['r'] ['p'] args
  if names.isEmpty then refuse "arg count"
  let raw := os.any (·.1 == 'r')
  if let some why := (← get).readFailure? 0 then
    if why == "Bad file descriptor" || why == "Is a directory" then
      for n in names do
        requireName n
        assign n ""
      return 1
  let (octets, _) ← available 0
  let (_, _, ended) := lineFrom raw octets 0
  if !ended then awaitEnd 0
  let (octets, _) ← available 0
  let (line, count, ended) := lineFrom raw octets 0
  consume 0 count
  let ifs := (((← get).var? "IFS").getD " \t\n").toList
  let values := (lineFields ifs names.length line).map fun ls => String.ofList (ls.map (·.char))
  for (n, i) in names.zipIdx do
    requireName n
    assign n (values[i]?.getD "")
  pure (if ended then 0 else 1)

/-- Decides a condition. -/
def test (args : List String) : Doing Nat := do
  let s ← get
  let args := if s.dialect == .bash then args.map fun a => if a == "==" then "=" else a else args
  match Condition.holds s.tree args with
  | .ok b => pure (if b then 0 else 1)
  | .error e => refuse e

/-- Decides a condition between brackets. -/
def bracket (args : List String) : Doing Nat := do
  if args.getLast? == some "]" then test args.dropLast else refuse "missing ]"

/-- Prints by a format. -/
def printf (args : List String) : Doing Nat := do
  let (_, args) ← options [] [] args
  match args with
  | [] => refuse "usage: printf format [arg ...]"
  | format :: rest =>
    let p := Printing.printf format rest
    say 1 (String.ofList p.written)
    for c in p.complaints do complain c
    match p.refusal with
    | some why => refuse why
    | none => pure (if p.complaints.isEmpty then 0 else 1)

/-- Prints its arguments. -/
def echo (args : List String) : Doing Nat := do
  let s ← get
  let (escapes, args) : Bool × List String :=
    match s.dialect, args with
    | .plain, _ => (true, args)
    | .bash, "-e" :: rest => (true, rest)
    | .bash, _ => (false, args)
  say 1 (Printing.echo escapes args)
  pure 0

/-- What reading one option has come to. -/
structure OptionRead where
  /-- The option, `?` or `:` if something is wrong with it; nothing at the end of the options. -/
  letter : Option Char
  /-- Its argument; what is kept of an argument before, if nothing. -/
  argument : Option (Option String)
  complaint : Option String
  /-- The argument after the one that has been read last. -/
  index : Nat
  /-- How far that one has been read, 0 if it is of no more use. -/
  offset : Nat

/-- The next option among some arguments, `index` of which comes after the one that has been read
up to `offset`. -/
def nextOption (spec : String) (index offset : Nat) (args : List String) : OptionRead :=
  let silent := spec.startsWith ":"
  let arg (n : Nat) : List Char := (args[n - 1]?.getD "").toList
  let left : List Char := if index ≤ 1 || offset == 0 then [] else (arg (index - 1)).drop offset
  let (left, index) : Option (List Char) × Nat :=
    match left with
    | _ :: _ => (some left, index)
    | [] =>
      match arg index with
      | ['-', '-'] => (none, index + 1)
      | '-' :: c :: more => (some (c :: more), index + 1)
      | _ => (none, index)
  match left with
  | none | some [] => ⟨none, none, none, index, 0⟩
  | some (c :: more) =>
    let named := String.singleton c
    let offset := (arg (index - 1)).length - more.length
    match spec.toList.dropWhile (· != c) with
    | [] =>
      if silent then ⟨some '?', some (some named), none, index, offset⟩
      else ⟨some '?', some none, some ("Illegal option -" ++ named), index, offset⟩
    | _ :: ':' :: _ =>
      if !more.isEmpty then ⟨some c, some (some (String.ofList more)), none, index, 0⟩
      else
        match args[index - 1]? with
        | some value => ⟨some c, some (some value), none, index + 1, 0⟩
        | none =>
          if silent then ⟨some ':', some (some named), none, index, 0⟩
          else ⟨some '?', some none, some ("No arg for -" ++ named ++ " option"), index, 0⟩
    | _ => ⟨some c, some (some ""), none, index, offset⟩

/-- Reads options of the shell's arguments, or of others, one at a time. -/
def getopts (args : List String) : Doing Nat := do
  match args with
  | spec :: name :: others =>
    let s ← get
    let from_ := if others.isEmpty then s.args else others
    let (index, offset) := if from_.length + 1 < s.optionAt.1 then (1, 0) else s.optionAt
    let r := nextOption spec index offset from_
    match r.complaint with
    | some why => say 2 (why ++ "\n")
    | none => pure ()
    match r.argument with
    | some (some value) => assign "OPTARG" value
    | some none => modify fun t => { t with vars := t.vars.filter (·.1 != "OPTARG") }
    | none => pure ()
    assign "OPTIND" (toString r.index)
    modify fun t => { t with optionAt := (r.index, r.offset) }
    requireName name
    assign name (String.singleton (r.letter.getD '?'))
    pure (if r.letter.isSome then 0 else 1)
  | _ => refuse "Usage: getopts optstring var [arg...]"

/-- What a process may be limited in: the letter, the name, and the limit that it may raise and the
one that it may not, if there are any. -/
def resources : List (Char × String × Option Nat × Option Nat) :=
  [('t', "time(seconds)", none, none), ('f', "file(blocks)", none, none),
    ('d', "data(kbytes)", none, none), ('s', "stack(kbytes)", some 8192, none),
    ('c', "coredump(blocks)", none, none), ('m', "memory(kbytes)", none, none),
    ('l', "locked memory(kbytes)", some 8192, some 8192), ('p', "process", none, none),
    ('n', "nofiles", some 1048576, some 1048576), ('v', "vmemory(kbytes)", none, none),
    ('w', "locks", none, none), ('r', "rtprio", some 0, some 0)]

/-- The limits of a resource: the one that may be raised, and the one that may not. -/
def limitsOf (s : Session) (letter : Char) : Option Nat × Option Nat :=
  match s.limits.lookup letter with
  | some r => r
  | none => (resources.lookup letter).elim (none, none) (·.2)

/-- Whether a limit goes beyond another. -/
def exceeds (a b : Option Nat) : Bool :=
  match a, b with
  | _, none => false
  | none, some _ => true
  | some m, some n => n < m

/-- Shows limits, or sets one. -/
def ulimit (args : List String) : Doing Nat := do
  let letters := resources.map (·.1)
  let (os, args) ← options ('H' :: 'S' :: 'a' :: letters) [] args
  let asked := os.map (·.1)
  let kind := ((asked.filter letters.contains).getLast?).getD 'f'
  let which := (asked.filter fun c => c == 'H' || c == 'S').getLast?
  let s ← get
  let shown (l : Char) : String :=
    let (soft, hard) := limitsOf s l
    match (if which == some 'H' then hard else soft) with
    | some n => toString n
    | none => "unlimited"
  match args with
  | [] =>
    if asked.contains 'a' then
      for (l, name, _) in resources do say 1 (Text.padRight 20 name ++ " " ++ shown l ++ "\n")
    else say 1 (shown kind ++ "\n")
    pure 0
  | value :: more =>
    if asked.contains 'a' || !more.isEmpty then refuse "too many arguments"
    if value != "unlimited" && !value.toList.all Char.isDigit then refuse "bad number"
    let limit : Option Nat := if value == "unlimited" then none else some (value.toNat?.getD 0)
    let (soft, hard) := limitsOf s kind
    let newSoft := if which == some 'H' then soft else limit
    let newHard := if which == some 'S' then hard else limit
    if exceeds newHard hard || exceeds newSoft newHard then
      refuse ("error setting limit ("
        ++ (if exceeds newHard hard then Files.Failure.notPermitted.words
          else Files.Failure.invalidArgument.words) ++ ")")
    modify fun t => { t with limits := (kind, newSoft, newHard) :: t.limits }
    pure 0

/-- The command of a name, if it is one that runs no others. -/
def ofName? (name : String) : Option (List String → Doing Nat) :=
  [(":", fun _ => pure 0), ("true", fun _ => pure 0), ("false", fun _ => pure 1), ("echo", echo),
    ("printf", printf), ("test", test), ("[", bracket), ("exit", exit), ("return", return_),
    ("break", leave .leaveLoop), ("continue", leave .nextRound), ("cd", cd), ("chdir", cd),
    ("pwd", pwd), ("kill", kill), ("wait", wait), ("jobs", jobs),
    ("export", declaring "export" (fun v => { v with exported := true }) (·.exported)),
    ("readonly", declaring "readonly" (fun v => { v with fixed := true }) (·.fixed)),
    ("unset", unset), ("local", local_), ("set", set_), ("shift", shift), ("trap", trap),
    ("umask", umask), ("alias", alias_), ("unalias", unalias), ("read", read),
    ("getopts", getopts), ("ulimit", ulimit),
    ("times", fun _ => do
      say 1 "0m0.000s 0m0.000s\n0m0.000s 0m0.000s\n"
      pure 0),
    ("bg", resume), ("fg", resume)].lookup name

/-- The commands that run others. -/
def runners : List String := ["eval", ".", "exec", "command", "type", "hash"]

/-- Whether a shell carries out a command of a name itself. -/
def isKnown (name : String) : Bool := (ofName? name).isSome || runners.contains name

/-- Whether a command of the shell is a special one: its faults end the shell, and assignments in
front of it stay. -/
def isSpecial (name : String) : Bool := specialNames.contains name

/-- Whether the arguments of a command of the shell may be assignments. -/
def takesAssignments (name : String) : Bool := ["export", "readonly", "local"].contains name

end TestFleet.Shell.Builtin
