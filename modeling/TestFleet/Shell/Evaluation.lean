import TestFleet.Shell.Arithmetic
import TestFleet.Shell.Program
/-!
# Running scripts

Words are expanded, redirections carried out, and commands run one after the other. Everything that
can recur takes a measure of fuel; a script that uses it up is taken for one that never ends.

A part of a script that runs in a process of its own leaves the shell as it was: only what all
processes have in common stays changed. Signals are attended to before and after every command.
-/
namespace TestFleet.Shell

open Files (Octets Failure Place)

/-- The arguments as one text, the first character of `IFS` between them. -/
def Session.joinedArgs (s : Session) : String :=
  let separator : String :=
    match s.var? "IFS" with
    | none => " "
    | some ifs => String.ofList (ifs.toList.take 1)
  separator.intercalate s.args

/-- The value of a parameter. -/
def Session.parameter? (s : Session) (name : String) : Option String :=
  match name with
  | "?" => some (toString s.status)
  | "$" => some (toString s.pid)
  | "#" => some (toString s.args.length)
  | "!" => s.lastJob.map toString
  | "-" => some (String.ofList (Builtin.optionLetters.filter s.has))
  | "0" => some s.zero
  | "@" | "*" => some s.joinedArgs
  | _ =>
    match Builtin.digits? name with
    | some 0 => some s.zero
    | some n => s.args[n - 1]?
    | none => s.var? name

/-- A text without a match of a pattern at its start. -/
def cutStart (longest : Bool) (pattern : List GlobPart) (cs : List Char) : List Char :=
  let lengths := List.range (cs.length + 1)
  let lengths := if longest then lengths.reverse else lengths
  match lengths.find? fun n => globMatches pattern (cs.take n) with
  | some n => cs.drop n
  | none => cs

/-- A text without a match of a pattern at its end. -/
def cutEnd (longest : Bool) (pattern : List GlobPart) (cs : List Char) : List Char :=
  let lengths := List.range (cs.length + 1)
  let lengths := if longest then lengths else lengths.reverse
  match lengths.find? fun n => globMatches pattern (cs.drop n) with
  | some n => cs.take n
  | none => cs

/-- The arguments in a word: kept apart where the word may be cut, `"$@"` even if it is quoted. -/
def argumentAtoms (s : Session) (name : String) (full quoted : Bool) : List Atom :=
  if s.args.isEmpty then if quoted && name != "@" then [.present] else []
  else if full && quoted && name == "@" then
    .region true :: ((s.args.map fun a => a.toList.map fun c => Atom.mark ⟨c, true⟩).intersperse
      [.cut]).flatten
  else if full && !quoted then
    .region false :: ((s.args.map fun a => a.toList.map Atom.loose).intersperse [.gap]).flatten
  else atoms quoted s.joinedArgs.toList

/-- The home directory of a user, of the one who runs the shell if no name is given. -/
def Session.home? (s : Session) (user : String) : Option String :=
  if user.isEmpty then s.var? "HOME"
  else
    [("root", "/root"), ("daemon", "/usr/sbin"), ("bin", "/bin"), ("sys", "/dev"),
      ("games", "/usr/games"), ("man", "/var/cache/man"), ("mail", "/var/mail"),
      ("www-data", "/var/www"), ("backup", "/var/backups"), ("nobody", "/nonexistent")].lookup user

/-- The session after a part of the script that cannot change the shell itself. -/
def Session.returning (before after : Session) (status : Nat) : Session :=
  let disk := { after.disk with
    tree := { after.disk.tree with current := before.disk.tree.current } }
  { before with toMachine := { after.toMachine with disk }, status, seen := after.now }

/-- The shell that a part of a script runs in as a process of its own: what it does on signals is
forgotten, except that it does not heed some. -/
def Session.forked (s : Session) : Session :=
  { s with
    self := s.fresh
    fresh := s.fresh + 1
    traps := s.traps.filter (·.2.isEmpty)
    jobs := []
    dead := none
    locals := [] }

/-- The number for a new process of a shell, and the jobs that it still remembers then: one that it
has waited for gives up its number. -/
def Session.withRoom (s : Session) : Nat × Session :=
  let isFree (n : Nat) : Bool := s.jobs.all fun j => j.number != n || j.waited
  let number := ((List.range (s.jobs.length + 1)).map (· + 1)).find? isFree |>.getD 1
  (number, { s with jobs := s.jobs.filter (·.number != number) })

/-- How many commands a background job is a pipeline of. -/
def partsOf (c : Command) : Nat :=
  match c with
  | .pipeline stages => stages.length
  | _ => 1

/-- Whether a command is a program, as far as its text shows: a process that runs nothing else
becomes it. -/
def Session.isProgram (s : Session) (c : Command) : Bool :=
  match c with
  | .simple _ _ ([.literal cs _] :: _) _ =>
    let name := String.ofList cs
    !Builtin.isKnown name && (s.functions.lookup name).isNone
  | _ => false

/-- The status with which a process ends that stops so; nothing if it does not end by itself. -/
def statusOf? (r : Except Stop Unit) (s : Session) : Option Nat :=
  match r with
  | .ok () => some s.status
  | .error (.exit n) | .error (.return n) | .error (.replaced n) => some (n % 256)
  | .error .fault => some 2
  | .error (.leaveLoop _) | .error (.nextRound _) => some 0
  | .error (.killed n) => some (128 + n)
  | .error .unending | .error .endless => none

/-- Whether a process that stops so does first what is to be done on its exit. -/
def heedsExit : Except Stop Unit → Bool
  | .error (.killed _) | .error (.replaced _) | .error .unending | .error .endless => false
  | _ => true

/-- Runs a round of a loop: whether another may follow, unless an outer loop is meant. -/
def oneRound (x : Doing Unit) : Doing Bool := fun s =>
  match ending x (fun t => { t with loops := s.loops }) { s with loops := s.loops + 1 } with
  | (.ok (), t) => (.ok true, t)
  | (.error (.leaveLoop n), t) =>
    (if n ≤ 1 then .ok false else .error (.leaveLoop (n - 1)), { t with status := 0 })
  | (.error (.nextRound n), t) =>
    (if n ≤ 1 then .ok true else .error (.nextRound (n - 1)), { t with status := 0 })
  | (.error e, t) => (.error e, t)

/-- The session with the variables of a function as they were outside it. -/
def Session.withoutLocals (s : Session) : Session :=
  s.locals.foldl (fun s (name, former) =>
    if name == "-" then
      { s with options := ((former.bind (·.value)).getD "").toList }
    else s.restoreVar name former) s

/-- Runs the body of a function. -/
def asFunction (args : List String) (x : Doing Unit) : Doing Unit := fun s =>
  let back (t : Session) : Session :=
    { t.withoutLocals with
      args := s.args, optionAt := s.optionAt, locals := s.locals, inFunction := s.inFunction
      loops := s.loops }
  match ending x back { s with
    args, optionAt := (1, 0), locals := [], inFunction := true, loops := 0 } with
  | (.error (.return n), t) => (.ok (), { t with status := n })
  | r => r

/-- The text of a script; a directory has none. -/
def Session.scriptText (s : Session) (path : String) : Except Failure Octets :=
  match s.content path with
  | .error .isDirectory => .ok []
  | r => r

/-- Why a shell cannot open a file, in its words. -/
def openingFailure (creating : Bool) (path : String) (f : Failure) : String :=
  let reason : String :=
    match f with
    | .notFound | .notDirectory => if creating then "Directory nonexistent" else "No such file"
    | f => f.words
  "cannot " ++ (if creating then "create " else "open ") ++ path ++ ": " ++ reason

/-- Opens a file for a descriptor; says whether that was possible. -/
def openPath (fd : Nat) (opening : Opening) (path : String) : Doing Bool := do
  let s ← get
  let name := Text.Bytewise.toText path
  let existing := s.tree.find name
  let failing (f : Failure) : Doing Bool := do
    complain (openingFailure (opening != .input) path f)
    pure false
  let opened (place : Place) : Doing Bool := do
    modify fun t =>
      let (id, t) := t.openFile place opening
      t.redirect fd (.file id)
    pure true
  match (descriptorAt? path).bind fun n => s.descriptors.lookup n with
  | some target =>
    set (s.redirect fd target)
    pure true
  | none =>
    match opening with
    | .input =>
      match existing with
      | .ok (place, _) => if s.tree.permits .read place then opened place else failing .permission
      | .error f => failing f
    | _ =>
      let isFile : Bool := match existing with | .ok (_, .file _) => true | _ => false
      if opening == .output && s.has 'C' && isFile then failing .exists
      else
        let keeps := opening == .append || opening == .both
        match s.change (editedAt s.umask s.clock name fun os => if keeps then os else []) with
        | .error f => failing f
        | .ok t =>
          set t
          match t.tree.resolve name with
          | .ok place => opened place
          | .error f => failing f

/-- Makes a descriptor stand for what another one stands for, or for nothing; says whether that was
possible. -/
def copyDescriptor (fd : Nat) (target : String) : Doing Bool := do
  let s ← get
  if target == "-" then
    set (s.close fd)
    pure true
  else
    match Builtin.digits? target with
    | some n =>
      if target.length != 1 then refuse ("Syntax error: " ++ Fault.badDescriptor.message)
      match s.descriptors.lookup n with
      | some t =>
        set (s.redirect fd t)
        pure true
      | none =>
        complain (target ++ ": Bad file descriptor")
        pure false
    | none => refuse ("Syntax error: " ++ Fault.badDescriptor.message)

/-- The descriptor that a redirection changes. -/
def Redirect.descriptor : Redirect → Nat
  | .file n _ _ | .copy n _ | .here n _ => n

/-- The session with some descriptors as they were before. -/
def Session.withDescriptors (before : List (Nat × Target)) (changed : List Nat) (s : Session) :
    Session :=
  changed.foldl (fun s n =>
    match before.lookup n with
    | some t => s.redirect n t
    | none => s.close n) s

/-- Why a program cannot be started. -/
inductive Missing where
  | notFound
  | denied
  | failed (f : Failure)

/-- The status of a command that cannot be started. -/
def Missing.status : Missing → Nat
  | .notFound => 127
  | .denied => 126
  | .failed f => if f == .nameTooLong || f == .tooManyLinks then 127 else 126

/-- Why a command cannot be started, in a shell's words. -/
def Missing.words : Missing → String
  | .notFound => "not found"
  | .denied => "Permission denied"
  | .failed f => f.words

/-- What a command's name stands for outside the shell. -/
inductive Found where
  /-- A program that is known. -/
  | program (path name : String)
  /-- A script, with its text. -/
  | script (path : String) (text : Octets)

/-- What stands at the path of a command. -/
def Session.executable? (s : Session) (path : String) : Except Missing Found :=
  match s.find path with
  | .error .notFound | .error .notDirectory => .error .notFound
  | .error .permission => .error .denied
  | .error f => .error (.failed f)
  | .ok (place, .file content) =>
    if !s.tree.permits .search place then .error .denied
    else
      match Program.at? place with
      | some name => .ok (.program path name)
      | none => if s.tree.permits .read place then .ok (.script path content) else .error .denied
  | .ok _ => .error .denied

/-- The directories in which programs are looked for. -/
def Session.searchPath (s : Session) : List String :=
  Text.splitOnChar ':' ((s.var? "PATH").getD "/bin:/usr/bin")

/-- What a command's name stands for outside the shell; programs are looked for by names without a
slash. -/
def Session.search (s : Session) (path : List String) (name : String) : Except Missing Found :=
  if name.toList.contains '/' then s.executable? name
  else if name.isEmpty then .error .notFound
  else
    let tried (result : Except Missing Found) (directory : String) : Except Missing Found :=
      match result with
      | .ok f => .ok f
      | .error why =>
        match s.executable? (if directory.isEmpty then name else Files.join directory name) with
        | .ok f => .ok f
        | .error .notFound => .error why
        | .error why => .error why
    path.foldl tried (.error .notFound)

/-- The path of a found program. -/
def Found.path : Found → String
  | .program path _ | .script path _ => path

/-- What a name stands for, in words or as a command would use it. -/
def describe (words : Bool) (name : String) : Doing Nat := do
  let s ← get
  let line (text plain : String) : Doing Nat := do
    say 1 ((if words then name ++ text else plain) ++ "\n")
    pure 0
  if keywords.contains name then line " is a shell keyword" name
  else
    match s.aliases.lookup name with
    | some text =>
      if words then line (" is an alias for " ++ text) ""
      else
        say 1 ("alias " ++ Builtin.aliasText name text)
        pure 0
    | none =>
      if (s.functions.lookup name).isSome then line " is a shell function" name
      else if Builtin.isKnown name then
        line (if Builtin.isSpecial name then " is a special shell builtin"
          else " is a shell builtin") name
      else
        match s.search s.searchPath name with
        | .ok f =>
          let tracked := s.hashed.contains name
          if !name.toList.contains '/' then
            modify fun t => { t with hashed := name :: t.hashed.filter (· != name) }
          line (" is" ++ (if tracked then " a tracked alias for" else "") ++ " " ++ f.path) f.path
        | .error _ =>
          if words then say 1 (name ++ ": not found\n")
          pure 127

/-- The interpreter that a script asks for in its first line, with an argument for it. -/
def interpreter? (text : Octets) : Option (String × List String) :=
  match Text.Bytewise.ofOctets (text.takeWhile (· != 10)) |>.toList with
  | '#' :: '!' :: rest =>
    let isBlank (c : Char) : Bool := c == ' ' || c == '\t'
    let line := Text.dropWhileEnd isBlank (rest.dropWhile isBlank)
    let path := line.takeWhile (!isBlank ·)
    let arg := (line.drop path.length).dropWhile isBlank
    if path.isEmpty then none
    else some (String.ofList path, if arg.isEmpty then [] else [String.ofList arg])
  | _ => none

/-- The last part of a command's name. -/
def bareName (name : String) : String := (Files.parts name).getLast?.getD name

/-- Which shell the name of a program asks for. -/
def dialectOf? (name : String) : Option Dialect :=
  match name with
  | "sh" | "dash" => some .plain
  | "bash" => some .bash
  | _ => none

/-- The session of a shell that is started by another: it sees only what is exported. -/
def Session.started (s : Session) (zero : String) (args : List String) (dialect : Dialect) :
    Session :=
  let exported := (s.environment.reverse.filter fun (n, _) => isName n).map fun (n, v) =>
    (n, (⟨some v, true, false⟩ : Variable))
  let own (name value : String) (vars : List (String × Variable)) : List (String × Variable) :=
    if (vars.lookup name).isSome then vars else (name, ⟨some value, false, false⟩) :: vars
  let parent : Variable := ⟨some (toString s.pid), false, false⟩
  let vars := ("PPID", parent) :: exported.filter (·.1 != "PPID")
  let optind : Variable := ⟨some "1", false, false⟩
  let vars := ("OPTIND", optind) :: vars.filter (·.1 != "OPTIND")
  let ifs : Variable := ⟨some " \t\n", false, false⟩
  let vars := ("IFS", ifs) :: vars.filter (·.1 != "IFS")
  { s with
    self := s.fresh
    pid := s.fresh
    fresh := s.fresh + 1
    vars := own "PATH" Program.usualPath (own "PS1" "$ " (own "PS2" "> " (own "PS4" "+ "
      (own "PWD" s.directory vars))))
    functions := []
    aliases := []
    args, zero, dialect
    line := 1
    status := 0
    within := none
    jobs := []
    lastJob := none
    dead := none
    handed := none
    kept := none
    options := []
    loops := 0
    inFunction := false
    locals := []
    traps := s.traps.filter (·.2.isEmpty)
    optionAt := (1, 0)
    hashed := [] }

/-- Does something, and gives the status that it leaves. -/
def called (x : Doing Unit) : Doing Nat := do
  x
  pure (← get).status

/-- Reads the arguments of a shell. -/
def shellCall (args : List String) : Except String Program.ShellCall :=
  Program.shellCall Builtin.optionLetters (fun n => Builtin.shellOptions.lookup n)
    (args.length + 1) args

mutual

/-- Attends to the signals that have come. -/
def attend : Nat → Doing Unit
  | 0 => throw .unending
  | fuel + 1 => do
    let s ← get
    let (mine, others) := s.signals.partition fun x => x.pid == s.self && x.at_ ≤ s.now
    match mine with
    | [] => pure ()
    | x :: more =>
      set { s with signals := more ++ others }
      match s.traps.lookup x.number with
      | some action =>
        if !action.isEmpty then
          modify fun t => { t with kept := some s.status }
          runText fuel action
          modify fun t => { t with status := s.status, kept := s.kept }
      | none =>
        if !Builtin.harmless x.number then
          modify fun t => { t with
            now := x.at_
            holders := ⟨0, t.now, t.heldPipes⟩ :: t.holders }
          throw (if x.number == 19 then .unending else .killed x.number)
      attend fuel
termination_by structural n => n

/-- Runs something as a process does: what is to be done on the exit comes last. -/
def untilExit : Nat → Doing Unit → Doing Unit
  | 0, _ => throw .unending
  | fuel + 1, x => fun s =>
    match x s with
    | (r, t) =>
      match heedsExit r, t.traps.lookup 0, statusOf? r t with
      | true, some action, some status =>
        let u := { t with
          traps := t.traps.filter (·.1 != 0), status, kept := some status, within := none }
        match runText fuel action u with
        | (.error (.exit n), v) => (.error (.exit n), v)
        | (.error .fault, v) => (.error (.exit 2), v)
        | (.error (.killed n), v) => (.error (.killed n), v)
        | (.error .unending, v) => (.error .unending, v)
        | (_, v) => (r, { v with status })
      | _, _, _ => (r, t)
termination_by structural n => n

/-- Runs a part of a script in a process of its own, which may be asked to end by a signal. -/
def apart : Nat → Doing Unit → Doing Unit
  | 0, _ => throw .unending
  | fuel + 1, x => fun s =>
    let start := s.forked
    match untilExit fuel x { start with now := s.now + Session.startTime } with
    | (.error (.killed n), t) =>
      Builtin.mourn n |>.run (s.returning t (128 + n))
    | (r, t) =>
      match statusOf? r t, r with
      | some n, _ => (.ok (), s.returning t n)
      | none, .error e => (.error e, s.returning t t.status)
      | none, .ok () => (.ok (), s.returning t t.status)
termination_by structural n => n

/-- Runs something in the background: time goes back to when it was started, and what it changes is
seen by others when its time has come. -/
def aside : Nat → Command → Doing Unit → Doing Unit
  | 0, _, _ => throw .unending
  | fuel + 1, body, x => fun s =>
    let (number, s) := s.withRoom
    let start := { s.forked with
      limit := none
      now := if s.isProgram body then s.now else s.now + Session.startTime
      job := s.fresh
      lastJob := none }
    let start := match s.descriptors.lookup 0 with
      | some _ => start.redirect 0 (.pipe 0)
      | none => start
    let (r, t) := untilExit fuel x start
    let (ends, status) : Nat × Nat :=
      match r, statusOf? r t with
      | _, some n => (t.now, n)
      | _, none => (never, 0)
    let pid := start.self
    let signal : Option Nat := match r with | .error (.killed n) => some n | _ => none
    let fresh := t.recorded.take (t.recorded.length - s.recorded.length)
    let machine := { t.toMachine with
      disk := s.disk
      now := s.now
      limit := s.limit
      recorded := if s.job == 0 then [] else t.recorded
      coming := s.coming ++ fresh.reverse
      holders := ⟨pid, ends, s.heldPipes⟩ :: t.holders }
    let ignores := (t.traps.filter (·.2.isEmpty)).map (·.1)
    (.ok (), { s with
      toMachine := machine
      status := 0
      jobs := s.jobs ++ [⟨number, pid, partsOf body, ends, status, signal, ignores, false⟩]
      lastJob := some pid })
termination_by structural n => n

/-- A part of a word after its expansions; `full` where words are cut into fields. -/
def expandPiece : Nat → Bool → Bool → Piece → Doing (List Atom)
  | 0, _, _, _ => throw .unending
  | fuel + 1, full, assigning, p => do
    match p with
    | .literal text quoted =>
      pure (if quoted then atoms true text else text.map fun c => .mark ⟨c, false⟩)
    | .home user inAssignment =>
      let s ← get
      let name := String.ofList user
      match (if inAssignment && !assigning then none else s.home? name) with
      | some directory => pure (directory.toList.map fun c => .mark ⟨c, true⟩)
      | none => pure (('~' :: user).map fun c => .mark ⟨c, false⟩)
    | .output body quoted => do
      let os ← outputOf fuel body
      let text := (Text.Bytewise.ofOctets os).toList.filter (·.toNat != 0)
      pure (atoms quoted (Text.dropWhileEnd (· == '\n') text))
    | .arithmetic expression quoted => do
      let text := textOf (← expandPieces fuel false false expression)
      let s ← get
      let values := s.vars.filterMap fun (n, v) => v.value.map (n, ·)
      let fixed := (s.vars.filter (·.2.fixed)).map (·.1)
      match Arithmetic.evaluate ⟨values, fixed⟩ text with
      | .ok (n, after) => do
        for (name, value) in after.values do
          if (← get).var? name != some value then assign name value
        pure (atoms quoted (toString n).toList)
      | .error .overflow => throw (.killed 8)
      | .error fault => refuse (fault.message text)
    | .value name how word quoted => do
      let s ← get
      let value := s.parameter? name
      let isArguments := name == "@" || name == "*"
      -- Whether the arguments are kept apart: a pattern sees the first of them alone.
      let apart_ := isArguments && full && !s.args.isEmpty && !(quoted && name == "*")
      let plain (s : Session) : List Atom :=
        if isArguments then argumentAtoms s name full quoted
        else atoms quoted ((s.parameter? name).getD "").toList
      let required : Doing Unit := do
        if value.isNone && s.has 'u' then refuse (name ++ ": parameter not set")
      let missing (nonempty : Bool) : Bool := value.isNone || nonempty && value == some ""
      let other : Doing (List Atom) := do
        let as_ ← expandPieces fuel full assigning word
        pure (if quoted then .present :: as_ else loosened as_)
      let pattern : Doing (List GlobPart) := do
        pure (toGlob (marksOf (← expandPieces fuel false false word)))
      match how with
      | .plain => do
        required
        pure (plain s)
      | .length => do
        required
        pure (atoms quoted (toString (value.getD "").length).toList)
      | .malformed => refuse "Bad substitution"
      | .orElse nonempty => if missing nonempty then other else pure (plain s)
      | .orAssign nonempty =>
        if missing nonempty then do
          let text := textOf (← expandPieces fuel false assigning word)
          Builtin.requireName name
          assign name text
          pure (plain (← get))
        else pure (plain s)
      | .orFail nonempty =>
        if missing nonempty then do
          let text := textOf (← expandPieces fuel false assigning word)
          refuse (name ++ ": " ++ (if word.isEmpty then
            (if nonempty then "parameter not set or null" else "parameter not set") else text))
        else pure (plain s)
      | .andThen nonempty => if missing nonempty then pure [] else other
      | .withoutStart longest => do
        required
        let pattern ← pattern
        if apart_ then
          let first := cutStart longest pattern (s.args.headD "").toList
          pure (plain { s with args := String.ofList first :: s.args.drop 1 })
        else pure (atoms quoted (cutStart longest pattern (value.getD "").toList))
      | .withoutEnd longest => do
        required
        let pattern ← pattern
        if apart_ then
          let first := cutEnd longest pattern (s.args.headD "").toList
          let changed := String.ofList first != s.args.headD ""
          pure (plain (if changed then { s with args := [String.ofList first] } else s))
        else pure (atoms quoted (cutEnd longest pattern (value.getD "").toList))
termination_by structural n => n

/-- The parts of a word after its expansions. -/
def expandPieces : Nat → Bool → Bool → List Piece → Doing (List Atom)
  | 0, _, _, _ => throw .unending
  | _ + 1, _, _, [] => pure []
  | fuel + 1, full, assigning, p :: rest => do
    let a ← expandPiece fuel full assigning p
    let b ← expandPieces fuel full assigning rest
    pure (a ++ b)
termination_by structural n => n

/-- The arguments that a word makes. -/
def expandWord : Nat → List Piece → Doing (List String)
  | 0, _ => throw .unending
  | fuel + 1, w => do
    let as_ ← expandPieces fuel true false w
    let s ← get
    let ifs := ((s.var? "IFS").getD " \t\n").toList
    let fields := fieldsOf ifs as_
    pure (if s.has 'f' then fields.map fun f => String.ofList (f.map (·.char))
      else fields.flatMap (pathsOf s.tree))
termination_by structural n => n

/-- The arguments that words make. -/
def expandWords : Nat → List (List Piece) → Doing (List String)
  | 0, _ => throw .unending
  | _ + 1, [] => pure []
  | fuel + 1, w :: rest => do
    let fields ← expandWord fuel w
    pure (fields ++ (← expandWords fuel rest))
termination_by structural n => n

/-- The arguments that the words of a command make which declares variables: assignments among them
are not cut. -/
def expandDeclared : Nat → List (List Piece) → Doing (List String)
  | 0, _ => throw .unending
  | _ + 1, [] => pure []
  | fuel + 1, w :: rest => do
    let isAssignment : Bool :=
      match w with
      | .literal cs false :: _ => (assignmentAt? cs).isSome
      | _ => false
    let fields ←
      if isAssignment then do pure [textOf (← expandPieces fuel false true w)]
      else expandWord fuel w
    pure (fields ++ (← expandDeclared fuel rest))
termination_by structural n => n

/-- What a command writes to the standard output. -/
def outputOf : Nat → Command → Doing Octets
  | 0, _ => throw .unending
  | fuel + 1, body => do
    let (_, before) := (← get).withRoom
    let (n, s) := before.openPipe []
    set (s.redirect 1 (.pipe n))
    ending (apart fuel (run fuel false body)) fun t =>
      { t with descriptors := before.descriptors, status := before.status, substituted := t.status }
    let s ← get
    pass (s.released n - s.now)
    pure ((← get).pipeContent n)
termination_by structural n => n

/-- Carries out redirections; says whether all of them were possible. -/
def redirectAll : Nat → List Redirect → Doing Bool
  | 0, _ => throw .unending
  | _ + 1, [] => pure true
  | fuel + 1, r :: rest => do
    let done ←
      match r with
      | .file fd opening target => do
        openPath fd opening (textOf (← expandPieces fuel false false target))
      | .copy fd target => do
        copyDescriptor fd (textOf (← expandPieces fuel false false target))
      | .here fd text => do
        let content := textOf (← expandPieces fuel false false text)
        modify fun s =>
          let (n, s) := s.openPipe (Text.Bytewise.octets content)
          s.redirect fd (.pipe n)
        pure true
    if done then redirectAll fuel rest else pure false
termination_by structural n => n

/-- Runs something between redirections; if one of them is not possible, the status says so. -/
def redirecting : Nat → List Redirect → Doing Unit → Doing Unit
  | 0, _, _ => throw .unending
  | fuel + 1, redirects, x => do
    let before := (← get).descriptors
    ending (do
      if ← redirectAll fuel redirects then x
      else modify fun t => { t with status := 2 })
      (Session.withDescriptors before (redirects.map (·.descriptor)))
termination_by structural n => n

/-- Ends the shell after a failure that is not tested, if it was asked to. -/
def heedFailure : Nat → Bool → Doing Unit
  | 0, _ => throw .unending
  | _ + 1, tested => do
    let s ← get
    if s.has 'e' && !tested && s.status != 0 then throw (.exit s.status)

/-- Runs a command. A failure counts unless it is tested. -/
def run : Nat → Bool → Command → Doing Unit
  | 0, _, _ => throw .endless
  | fuel + 1, tested, c => do
    if (← get).has 'n' then return
    attend fuel
    match c with
    | .nothing => pure ()
    | .simple line assignments words redirects => do
      modify fun s => { s with line := line }
      runSimple fuel tested assignments words redirects
      attend fuel
      heedFailure fuel tested
    | .sequence first second => do
      run fuel tested first
      run fuel tested second
    | .both first second => do
      run fuel true first
      if (← get).status == 0 then run fuel tested second
    | .either first second => do
      run fuel true first
      if (← get).status != 0 then run fuel tested second
    | .inverted body => do
      run fuel true body
      modify fun s => { s with status := if s.status == 0 then 1 else 0 }
    | .pipeline stages => do
      runStages fuel tested stages
      attend fuel
      heedFailure fuel tested
    | .background body =>
      aside fuel body
        (match body with
          | .subshell line inner redirects => do
            modify fun s => { s with line }
            redirecting fuel redirects (run fuel tested inner)
          | _ => run fuel tested body)
    | .redirected line body redirects => do
      modify fun s => { s with line := line }
      redirecting fuel redirects (run fuel tested body)
    | .subshell line body redirects => do
      modify fun s => { s.withRoom.2 with line := line }
      apart fuel (redirecting fuel redirects (run fuel tested body))
      attend fuel
      heedFailure fuel tested
    | .branch condition yes no => do
      run fuel true condition
      if (← get).status == 0 then run fuel tested yes
      else
        modify fun s => { s with status := 0 }
        match no with
        | some c => run fuel tested c
        | none => pure ()
    | .loop wanted condition body => runLoop fuel tested wanted condition body 0
    | .forEach line name words body => do
      modify fun s => { s with line := line }
      let values ← expandWords fuel words
      modify fun s => { s with status := 0 }
      runFor fuel tested name values body
    | .choice line word cases => do
      modify fun s => { s with line := line }
      let text := textOf (← expandPieces fuel false false word)
      modify fun s => { s with status := 0 }
      runCases fuel tested text.toList cases
    | .define line name body =>
      modify fun s => { s with
        functions := (name, line, body) :: s.functions.filter (·.1 != name), status := 0 }
    attend fuel
termination_by structural n => n

/-- Runs commands at the same time, each reading what the one before it writes. -/
def runStages : Nat → Bool → List Command → Doing Unit
  | 0, _, _ => throw .unending
  | fuel + 1, tested, stages => do
    let (_, s) := (← get).withRoom
    set s
    runJoined fuel tested s.now s.now none none stages
    modify fun t => { t with descriptors := s.descriptors }
termination_by structural n => n

/-- Runs the rest of some stages, which all start at a time and the first of which reads from a
pipe; the former ones end at a time, unless one of them does not. -/
def runJoined : Nat → Bool → Nat → Nat → Option Stop → Option Nat → List Command → Doing Unit
  | 0, _, _, _, _, _, _ => throw .unending
  | _ + 1, _, _, _, _, _, [] => pure ()
  | fuel + 1, tested, start, ended, stuck, source, c :: rest => do
    let before ← get
    let s := { before with now := start }
    let s := match source with | some n => s.redirect 0 (.pipe n) | none => s
    let (target, s) : Option Nat × Session :=
      if rest.isEmpty then (none, s)
      else
        let (n, s) := s.openPipe []
        (some n, s.redirect 1 (.pipe n))
    set s
    let outcome : Option Stop ← fun t =>
      match apart fuel (run fuel tested c) t with
      | (.ok (), u) => (.ok none, u)
      | (.error e, u) => (.ok (some e), u)
    let after ← get
    match target with
    | some n =>
      let stuck := match stuck, outcome with | some e, _ => some e | none, e => e
      let closes := if outcome.isSome then never else after.released n
      set { after.closePipe n closes with
        now := max ended after.now, descriptors := before.descriptors }
      runJoined fuel tested start (max ended after.now) stuck (some n) rest
    | none =>
      set { after with now := max ended after.now }
      match outcome, stuck with
      | some e, _ => throw e
      | none, some .unending => throw .unending
      | none, _ => pure ()
termination_by structural n => n

/-- Runs a loop for as long as its condition has the wanted end. -/
def runLoop : Nat → Bool → Bool → Command → Command → Nat → Doing Unit
  | 0, _, _, _, _, _ => throw .endless
  | fuel + 1, tested, wanted, condition, body, last => do
    let again ← oneRound (run fuel true condition)
    if again && ((← get).status == 0) == wanted then
      if ← oneRound (run fuel tested body) then
        runLoop fuel tested wanted condition body (← get).status
    else modify fun s => { s with status := last }
termination_by structural n => n

/-- Runs a body for each value. -/
def runFor : Nat → Bool → String → List String → Command → Doing Unit
  | 0, _, _, _, _ => throw .endless
  | _ + 1, _, _, [], _ => pure ()
  | fuel + 1, tested, name, v :: rest, body => do
    assign name v
    if ← oneRound (run fuel tested body) then runFor fuel tested name rest body
termination_by structural n => n

/-- Runs the first case with a pattern for a text. -/
def runCases : Nat → Bool → List Char → List (List (List Piece) × Command) → Doing Unit
  | 0, _, _, _ => throw .unending
  | _ + 1, _, _, [] => pure ()
  | fuel + 1, tested, text, (patterns, body) :: rest => do
    if ← anyPattern fuel text patterns then run fuel tested body
    else runCases fuel tested text rest
termination_by structural n => n

/-- Whether one of some patterns stands for a text. -/
def anyPattern : Nat → List Char → List (List Piece) → Doing Bool
  | 0, _, _ => throw .unending
  | _ + 1, _, [] => pure false
  | fuel + 1, text, p :: rest => do
    let pattern := toGlob (marksOf (← expandPieces fuel false false p))
    if globMatches pattern text then pure true else anyPattern fuel text rest
termination_by structural n => n

/-- The arguments of a command, its name the first. -/
def argumentsOf : Nat → List (List Piece) → Doing (List String)
  | 0, _ => throw .unending
  | _ + 1, [] => pure []
  | fuel + 1, w :: rest => do
    match ← expandWord fuel w with
    | [] => argumentsOf fuel rest
    | first :: more =>
      let name := if first == "command" then more.headD "" else first
      let declares := Builtin.takesAssignments name && ((← get).functions.lookup name).isNone
      let nested : Bool :=
        match first, more, rest with
        | "command", [], (.literal cs false :: _) :: _ =>
          Builtin.takesAssignments (String.ofList cs)
        | _, _, _ => false
      let others ← if declares || nested then expandDeclared fuel rest else expandWords fuel rest
      pure (first :: more ++ others)
termination_by structural n => n

/-- Sets the variables of assignments, in the end for the commands after them too unless they are
kept for one command; then what they were before is given. -/
def assignAll : Nat → Bool → Bool → List (String × List Piece) →
    Doing (List (String × Option Variable) × List String)
  | 0, _, _, _ => throw .unending
  | _ + 1, _, _, [] => pure ([], [])
  | fuel + 1, kept, exported, (name, word) :: rest => do
    let value := textOf (← expandPieces fuel false true word)
    let former := (← get).vars.lookup name
    assign name value
    if kept || exported then
      modify fun s => { s with vars := s.vars.map fun (n, v) =>
        (n, if n == name then { v with exported := true } else v) }
    let (more, shown) ← assignAll fuel kept exported rest
    pure (if kept then (name, former) :: more else more, (name ++ "=" ++ value) :: shown)
termination_by structural n => n

/-- Runs a simple command. -/
def runSimple :
    Nat → Bool → List (String × List Piece) → List (List Piece) → List Redirect → Doing Unit
  | 0, _, _, _, _ => throw .unending
  | fuel + 1, tested, assignments, words, redirects => do
    modify fun s => { s with substituted := 0 }
    let args ← argumentsOf fuel words
    let before ← get
    let name := args.headD ""
    let isFunction := (before.functions.lookup name).isSome
    let special := !isFunction && Builtin.isSpecial name
    let keepsRedirects := name == "exec" && args.length == 1 && !isFunction
    let restore (t : Session) : Session :=
      if keepsRedirects then t
      else t.withDescriptors before.descriptors (redirects.map (·.descriptor))
    let forOne := !args.isEmpty && !special
    ending (do
      if ← redirectAll fuel redirects then
        let (formers, shown) ← assignAll fuel forOne (name == "exec" && 1 < args.length) assignments
        let unassign (t : Session) : Session :=
          formers.reverse.foldl (fun t (n, v) => t.restoreVar n v) t
        if (← get).has 'x' && !(shown ++ args).isEmpty then
          let mark := ((← get).var? "PS4").getD ""
          let line := mark ++ " ".intercalate (shown ++ args) ++ "\n"
          modify fun s => (s.withDescriptors before.descriptors [2]).write 2
            (Text.Bytewise.octets line) |>.withDescriptors s.descriptors [2]
        ending (do
          match args with
          | [] => modify fun s => { s with status := s.substituted }
          | name :: rest => do
            modify fun s => { s with status := before.status }
            let status ← runNamed fuel tested false name rest
            modify fun s => { s with status }) unassign
      else
        modify fun t => { t with status := 2 }
        if special then throw .fault) restore
termination_by structural n => n

/-- Runs a command of a name, and gives its status. Functions are passed over if `plainly`, and
then no fault ends the shell. -/
def runNamed : Nat → Bool → Bool → String → List String → Doing Nat
  | 0, _, _, _, _ => throw .unending
  | fuel + 1, tested, plainly, name, args => do
    let s ← get
    match (if plainly then none else s.functions.lookup name) with
    | some (_, body) => called (asFunction args (run fuel tested body))
    | none =>
      if Builtin.isKnown name then
        let survives := plainly || !Builtin.isSpecial name
        let entered := { s with within := some name, unwritten := false }
        let carried : Doing Nat := do
          let status ← runOwn fuel tested s.within name args
          if (← get).unwritten then
            complain (name ++ ": I/O error")
            pure (status ||| 1)
          else pure status
        fun _ =>
          let leave (t : Session) : Session :=
            { t with within := s.within, unwritten := s.unwritten }
          match carried entered with
          | (.error .fault, t) => if survives then (.ok 2, leave t) else (.error .fault, t)
          | (r, t) => (r, leave t)
      else
        match s.search s.searchPath name with
        | .ok found => do
          if !name.toList.contains '/' then
            modify fun t => { t with hashed := name :: t.hashed.filter (· != name) }
          modify fun t => t.withRoom.2
          pass Session.startTime
          let status ← runFound fuel name found args
          let t ← get
          set { t with seen := t.now, dead := none }
          match t.dead with
          | some n => Builtin.mourn n
          | none => pure ()
          pure status
        | .error why => do
          complain (match s.dialect, why with
            | .bash, .notFound =>
              name ++ (if name.toList.contains '/' then ": No such file or directory"
                else ": command not found")
            | _, _ => name ++ ": " ++ why.words)
          pure (if name.toList.contains '/' then why.status else 127)
termination_by structural n => n

/-- Carries out a command of the shell's own, inside another one if `outer` names it. -/
def runOwn : Nat → Bool → Option String → String → List String → Doing Nat
  | 0, _, _, _, _ => throw .unending
  | fuel + 1, tested, outer, name, args => do
    let s ← get
    match name with
    | "eval" =>
      let text := " ".intercalate args
      modify fun t => { t with status := 0 }
      if text.isEmpty then pure 0 else called (do
        modify fun t => { t with status := s.status }
        runNested fuel tested text)
    | "." => do
      let (_, args) ← Builtin.options [] [] args
      match args with
      | [] => pure 0
      | path :: _ => do
        let isFile (p : String) : Bool :=
          match s.find p with
          | .ok (_, .file _) => true
          | _ => false
        let full ←
          if path.toList.contains '/' then pure path
          else
            match (s.searchPath.map fun d => if d.isEmpty then path else Files.join d path).find?
              isFile with
            | some p => pure p
            | none => refuse (path ++ ": not found")
        match s.scriptText full with
        | .ok octets => do
          modify fun t => { t with within := some full, status := 0 }
          let text := Text.Bytewise.ofOctets octets
          fun t =>
            match runNested fuel tested text t with
            | (.ok (), u) => (.ok u.status, u)
            | (.error (.return n), u) => (.ok n, u)
            | (.error e, u) => (.error e, u)
        | .error f => refuse (openingFailure false full f)
    | "exec" => do
      let (_, args) ← Builtin.options [] ['a'] args
      match args with
      | [] => pure 0
      | other :: rest =>
        match s.search s.searchPath other with
        | .ok found => do
          modify fun t => { t with within := none, traps := t.traps.filter (·.2.isEmpty) }
          let status ← runFound fuel other found rest
          match (← get).dead with
          | some n => throw (.killed n)
          | none => throw (.replaced status)
        | .error why => do
          complain (other ++ ": " ++ why.words)
          throw (.exit why.status)
    | "command" => do
      let (os, args) ← Builtin.options ['p', 'v', 'V'] [] args
      match os.filter (·.1 != 'p'), args with
      | _, [] => pure 0
      | [], other :: rest => do
        modify fun t => { t with within := outer }
        runNamed fuel tested true other rest
      | asked, other :: _ => describe ((asked.getLast?.map (·.1)) == some 'V') other
    | "type" => do
      let mut status := 0
      for a in args do status := status ||| (← describe true a)
      pure status
    | "hash" => do
      let (os, args) ← Builtin.options ['r', 'v'] [] args
      if os.any (·.1 == 'r') then modify fun t => { t with hashed := [] }
      let mut status := 0
      for a in args do
        if !Builtin.isKnown a && (s.functions.lookup a).isNone then
          match s.search s.searchPath a with
          | .ok _ => modify fun t => { t with hashed := a :: t.hashed.filter (· != a) }
          | .error why =>
            complain (a ++ ": " ++ why.words)
            status := 1
      if os.isEmpty && args.isEmpty then
        for a in s.hashed do
          match s.search s.searchPath a with
          | .ok f => say 1 (f.path ++ "\n")
          | .error _ => pure ()
      pure status
    | _ =>
      match Builtin.ofName? name with
      | some f => f args
      | none => pure 0
termination_by structural n => n

/-- Runs a program that has been found, and gives its status. -/
def runFound : Nat → String → Found → List String → Doing Nat
  | 0, _, _, _ => throw .unending
  | fuel + 1, name, found, args => do
    pass Session.startTime
    let s ← get
    match found with
    | .program _ program =>
      match dialectOf? program with
      | some dialect => runShell fuel dialect name args
      | none =>
        inProgram name (match Program.ofName? program with
          | some f => f args
          | none => runRunner fuel program args)
    | .script path text =>
      match interpreter? text with
      | none => runScript fuel .plain path text args
      | some (shell, first) =>
        match s.executable? shell with
        | .ok (.program _ program) =>
          runFound fuel shell (.program shell program) (first ++ path :: args)
        | .ok (.script _ _) => do
          complain (name ++ ": Exec format error")
          pure 126
        | .error why => do
          complain (name ++ ": " ++ why.words)
          pure why.status
termination_by structural n => n

/-- Runs a command as a program does that gives up its place to it. -/
def runInstead : Nat → List String → Doing Nat
  | 0, _ => throw .unending
  | _ + 1, [] => pure 0
  | fuel + 1, name :: args => do
    let s ← get
    match s.search s.searchPath name with
    | .ok found => runFound fuel name found args
    | .error why => do
      let reason := match why with | .notFound => Failure.notFound.words | why => why.words
      let how : String ←
        match bareName (← Program.calledAs) with
        | "nohup" | "timeout" => pure "failed to run command "
        | "setsid" => pure "failed to execute "
        | _ => pure ""
      let quoted := !(["xargs", "setsid"].contains (bareName (← Program.calledAs)))
      Program.blame (how ++ (if quoted then Program.named name else name) ++ ": " ++ reason)
      pure why.status
termination_by structural n => n

/-- Runs a program that runs others. -/
def runRunner : Nat → String → List String → Doing Nat
  | 0, _, _ => throw .unending
  | fuel + 1, program, args => do
    match program with
    | "env" => do
      let plan ← Program.surroundings args
      let before ← get
      let given := plan.applied before.environment
      set { before with
        handed := some given
        vars := given.map fun (n, v) => (n, ⟨some v, true, false⟩) }
      ending (do
        if plan.command.isEmpty then
          for (n, v) in given do say 1 (n ++ "=" ++ v ++ "\n")
          pure 0
        else runInstead fuel plan.command)
        fun t => { t with vars := before.vars, handed := before.handed }
    | "timeout" => do
      let plan ← Program.deadline (Builtin.signal? 1) args
      runTimed fuel plan
    | "xargs" => do
      let plan ← Program.batches args
      let input ← readAll 0
      let calls := plan.calls (Text.Bytewise.ofOctets input).toList
      runCalls fuel plan.shows 0 calls
    | "find" => do
      match Program.huntOf args with
      | .error why => Program.fail 1 why
      | .ok plan => runHunt fuel plan
    | "which" => do
      let s ← get
      Program.eachOperand args fun a => do
        match s.search s.searchPath a with
        | .ok f => do
          say 1 (f.path ++ "\n")
          pure true
        | .error _ => pure false
    | _ =>
      if args.isEmpty then Program.misused 125 "missing operand" else runInstead fuel args
termination_by structural n => n

/-- Runs commands one after the other; the status says whether one has failed. -/
def runCalls : Nat → Bool → Nat → List (List String) → Doing Nat
  | 0, _, _, _ => throw .unending
  | _ + 1, _, status, [] => pure status
  | fuel + 1, shows, status, call :: rest => do
    if shows then say 2 (" ".intercalate call ++ "\n")
    let n ← runInstead fuel call
    if n == 126 || n == 127 then pure n
    else if n == 255 then
      Program.blame (call.headD "" ++ ": exited with status 255; aborting")
      pure 124
    else runCalls fuel shows (if n == 0 then status else 123) rest
termination_by structural n => n

/-- Runs a command that is stopped after a time. -/
def runTimed : Nat → Program.Deadline → Doing Nat
  | 0, _ => throw .unending
  | fuel + 1, plan => fun s =>
    let ends := s.now + plan.nanos
    let earlier : Bool := match s.limit with | some l => l ≤ ends | none => false
    let stopped (t : Session) : Except Stop Nat × Session :=
      let after := { t with limit := s.limit, now := ends }
      if plan.signal == 9 then (.ok 137, { after with dead := some 9 }) else (.ok 124, after)
    if plan.nanos == 0 || earlier then runInstead fuel plan.command s
    else
      match runInstead fuel plan.command { s with limit := some ends } with
      | (.error .unending, t) =>
        if ends ≤ t.now then stopped t else (.error .unending, { t with limit := s.limit })
      | (.error .endless, t) => stopped t
      | (r, t) => (r, { t with limit := s.limit })
termination_by structural n => n

/-- Looks for files, and does what is to be done with those that are found. -/
def runHunt : Nat → Program.Hunt → Doing Nat
  | 0, _ => throw .unending
  | fuel + 1, plan => do
    let mut status := 0
    for root in plan.roots do
      match (← get).tree.findHere (Text.Bytewise.toText root) with
      | .error f =>
        Program.blame (Program.named root ++ ": " ++ f.words)
        status := 1
      | .ok (place, _) =>
        for visit in plan.visits (← get) root place do
          let _ ← findActions fuel plan.test visit
    pure status
termination_by structural n => n

/-- Whether a test holds of a file that was found; what it does on the way is done. -/
def findActions : Nat → Program.FindTest → Program.Visit → Doing Bool
  | 0, _, _ => throw .unending
  | fuel + 1, t, v => do
    match t with
    | .both a b => do if ← findActions fuel a v then findActions fuel b v else pure false
    | .either a b => do if ← findActions fuel a v then pure true else findActions fuel b v
    | .not a => do pure (!(← findActions fuel a v))
    | .holds p => do pure (p (← get) v)
    | .act f => f v
    | .run command => do
      let filled := command.map (Program.substituting "\x7b\x7d" v.path)
      pure ((← runInstead fuel filled) == 0)
termination_by structural n => n

/-- Runs another shell, and gives its status. -/
def runShell : Nat → Dialect → String → List String → Doing Nat
  | 0, _, _, _ => throw .unending
  | fuel + 1, dialect, name, args => do
    let refused (why : String) : Doing Nat := do
      say 2 (name ++ ": 0: " ++ why ++ "\n")
      pure 2
    match shellCall args with
    | .error why => refused why
    | .ok call =>
      match call.command, call.operands with
      | true, [] => refused "-c requires an argument"
      | true, text :: more =>
        newShell fuel dialect call.options (more.headD name) (more.drop 1) text
      | false, [] =>
        let text := Text.Bytewise.ofOctets (← readAll 0)
        newShell fuel dialect call.options name [] text
      | false, path :: more =>
        if call.input then
          let text := Text.Bytewise.ofOctets (← readAll 0)
          return (← newShell fuel dialect call.options name (path :: more) text)
        match (← get).scriptText path with
        | .ok text => newShell fuel dialect call.options path more (Text.Bytewise.ofOctets text)
        | .error f => refused (openingFailure false path f)
termination_by structural n => n

/-- Runs a script in a shell of its own, and gives its status. -/
def runScript : Nat → Dialect → String → Octets → List String → Doing Nat
  | 0, _, _, _, _ => throw .unending
  | fuel + 1, dialect, path, text, args =>
    newShell fuel dialect [] path args (Text.Bytewise.ofOctets text)
termination_by structural n => n

/-- Runs a text in a shell of its own, and gives its status. -/
def newShell : Nat → Dialect → List Char → String → List String → String → Doing Nat
  | 0, _, _, _, _, _ => throw .unending
  | fuel + 1, dialect, options, zero, args, text => fun s =>
    let start := { s.started zero args dialect with options := options.filter (· != 'm') }
    let start :=
      if options.contains 'm' then
        start.write 2 (Text.Bytewise.octets (zero ++ ": 0: " ++ Builtin.noTerminal ++ "\n"))
      else start
    match untilExit fuel (runText fuel text) start with
    | (.error (.killed n), t) => (.ok (128 + n), { s.returning t s.status with dead := some n })
    | (r, t) =>
      match statusOf? r t, r with
      | some n, _ => (.ok (n % 256), s.returning t s.status)
      | none, .error e => (.error e, s.returning t s.status)
      | none, .ok () => (.ok t.status, s.returning t s.status)
termination_by structural n => n

/-- Runs a text as a script. -/
def runText : Nat → String → Doing Unit
  | 0, _ => throw .unending
  | fuel + 1, text => runNested fuel false text
termination_by structural n => n

/-- Runs a text as a script whose failures may be tested. -/
def runNested : Nat → Bool → String → Doing Unit
  | 0, _, _ => throw .unending
  | fuel + 1, tested, text => do
    runLines fuel tested (Source.ofText text (← get).aliases)
termination_by structural n => n

/-- Runs the lines of a script. -/
def runLines : Nat → Bool → Source → Doing Unit
  | 0, _, _ => throw .endless
  | fuel + 1, tested, source => do
    match { source with aliases := (← get).aliases }.next? with
    | .ok (command, rest) =>
      match command with
      | some c => run fuel tested c
      | none => pure ()
      if !rest.isOver then runLines fuel tested rest
    | .error (fault, line) =>
      modify fun s => { s with line }
      refuse ("Syntax error: " ++ fault.message)
termination_by structural n => n

end

end TestFleet.Shell
