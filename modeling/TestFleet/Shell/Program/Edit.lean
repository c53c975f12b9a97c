import TestFleet.Shell.Program.Content
import TestFleet.Shell.Program.EditScript
/-!
# A program that edits lines

Lines are read one after the other into a space, in which the commands of a script change them; at
the end of the script the space is written out. A second space holds what is put there.
-/
namespace TestFleet.Shell.Program.Edit

open Files (Octets Failure)

/-- How an editor was called. -/
structure Manner where
  quiet : Bool
  folded : Bool
  commands : Array Command

/-- The state of an editor. -/
structure State where
  space : List Char
  held : List Char
  /-- The lines that are still to be read, and whether the last of them has an end. -/
  left : List (List Char)
  ended : Bool
  number : Nat
  /-- What is written after the space. -/
  queue : List (List Char)
  /-- For each range that has begun, by its command: the line where it ends, none if a pattern
  ends it. -/
  begun : List (Nat × Option Nat)
  lastPattern : Pattern
  replaced : Bool
  /-- What has been written, the last first. -/
  out : List (List Char)
  /-- Whether the last line written has no end. -/
  unended : Bool
  /-- Files that are written to. -/
  written : List (String × List Char)
  /-- Files that are read, with what is in them. -/
  known : List (String × List Char)
  deriving Inhabited

/-- Whether the line in the space is the last one. -/
def State.isLast (s : State) : Bool := s.left.isEmpty

/-- What a pattern stands for. -/
def State.pattern (s : State) (p : Pattern) : Pattern := p.orElse fun _ => s.lastPattern

/-- The space as a subject. -/
def subjectOf (cs : List Char) (folded : Bool) : Expression.Subject := ⟨cs.toArray, folded, true⟩

/-- Whether an address chooses the line in the space. -/
def State.meets (s : State) (a : Address) : Bool :=
  match a with
  | .line n => n == s.number
  | .last => s.isLast
  | .holds p =>
    match s.pattern p with
    | some (e, folded) => (e.find? (subjectOf s.space folded) 0).isSome
    | none => false
  | .every first step =>
    if step == 0 then s.number == first
    else first ≤ s.number && (s.number - first) % step == 0

/-- The state after a pattern in an address has been used. -/
def State.using (s : State) (a : Address) : State :=
  match a with
  | .holds (some p) => { s with lastPattern := some p }
  | _ => s

/-- Whether the command at an index counts for the line in the space. -/
def State.counts (s : State) (index : Nat) (scope : Scope) : Bool × State :=
  match scope with
  | .all => (true, s)
  | .one a => (s.meets a, s.using a)
  | .range a b =>
    let without : State := { s with begun := s.begun.filter (·.1 != index) }
    let beginning (s : State) (stop : Option Nat) : State :=
      { s with begun := (index, stop) :: s.begun.filter (·.1 != index) }
    match s.begun.lookup index with
    | some (some n) =>
      if s.number < n then (true, s)
      else (s.number == n || n == 0, without)
    | some none =>
      match b with
      | .at_ e => (true, if s.meets e then without.using e else s.using e)
      | _ => (true, without)
    | none =>
      let starts : Bool := s.meets a || (match a with | .line 0 => s.number == 1 | _ => false)
      if !starts then (false, s.using a)
      else
        let fromStart : Bool := match a with | .line 0 => true | _ => false
        match b with
        | .at_ (.line n) =>
            (true, if n ≤ s.number then s.using a else beginning (s.using a) (some n))
        | .after n => (true, if n == 0 then s else beginning s (some (s.number + n)))
        | .multiple n =>
          let stop := if n == 0 then s.number else (s.number + n - 1) / n * n
          (true, if stop ≤ s.number then s else beginning s (some stop))
        | .at_ e =>
          if fromStart && s.meets e then (true, s.using e) else (true, beginning (s.using a) none)

/-- Text with the case of its parts changed as signs in it say. -/
def cased : List (Sum Char Char) → Option Char → Option Char → List Char
  | [], _, _ => []
  | .inr letter :: rest, mode, once =>
    if letter == 'E' then cased rest none once
    else if letter == 'U' || letter == 'L' then cased rest (some letter) once
    else cased rest mode (some letter)
  | .inl c :: rest, mode, once =>
    let changed : Char :=
      match once, mode with
      | some 'u', _ => c.toUpper
      | some 'l', _ => c.toLower
      | _, some 'U' => c.toUpper
      | _, some 'L' => c.toLower
      | _, _ => c
    changed :: cased rest mode none

/-- What stands in the place of a match. -/
def replacementText (cs : Array Char) (m : Expression.Match) (parts : List Part) : List Char :=
  cased (parts.flatMap fun p =>
    match p with
    | .char c => [.inl c]
    | .case letter => [.inr letter]
    | .group 0 => (cs.extract m.start m.finish).toList.map .inl
    | .group n =>
      match m.groups.lookup n with
      | some (i, j) => (cs.extract i j).toList.map .inl
      | none => []) none none

/-- The text with matches replaced, and whether any was. The matches are counted; one that is empty
does not count right behind another. -/
def substituted (e : Expression) (subject : Expression.Subject) (s : Substitution) :
    Nat → Nat → Nat → Option Nat → List Char × Bool
  | 0, i, _, _ => ((subject.chars.extract i subject.chars.size).toList, false)
  | fuel + 1, i, count, behind =>
    let tail (i : Nat) : List Char := (subject.chars.extract i subject.chars.size).toList
    match e.find? subject i with
    | none => (tail i, false)
    | some m =>
      let before := (subject.chars.extract i m.start).toList
      let next := (subject.chars.extract m.finish (m.finish + 1)).toList
      if m.start == m.finish && behind == some m.start then
        if subject.chars.size ≤ m.start then (tail i, false)
        else
          let (more, any) := substituted e subject s fuel (m.finish + 1) count none
          (before ++ next ++ more, any)
      else
        let chosen : Bool := count + 1 == s.number || s.all && s.number ≤ count + 1
        let put := if chosen then replacementText subject.chars m s.parts
          else (subject.chars.extract m.start m.finish).toList
        if chosen && !s.all then (before ++ put ++ tail m.finish, true)
        else if m.start == m.finish then
          if subject.chars.size ≤ m.start then (before ++ put, chosen)
          else
            let (more, any) := substituted e subject s fuel (m.finish + 1) (count + 1) none
            (before ++ put ++ next ++ more, any || chosen)
        else
          let (more, any) := substituted e subject s fuel m.finish (count + 1) (some m.finish)
          (before ++ put ++ more, any || chosen)

/-- The state with a text written out. A line without an end gets one first. -/
def State.showText (s : State) (cs : List Char) : State :=
  { s with out := (if s.unended then '\n' :: cs else cs) :: s.out, unended := false }

/-- The state with a line written out. The last line has an end only if it was read with one. -/
def State.show (s : State) (cs : List Char) : State :=
  if s.isLast && !s.ended then { s.showText cs with unended := true }
  else s.showText (cs ++ ['\n'])

/-- The state with what is to come behind the space written out. -/
def State.flushed (s : State) : State :=
  s.queue.foldl State.showText { s with queue := [] }

/-- The state after the end of a script: what is to be written has been. -/
def State.closed (s : State) (quiet : Bool) : State :=
  (if quiet then s else s.show s.space).flushed

/-- The state with the next line in the space. -/
def State.read (s : State) (join : Bool) : State :=
  match s.left with
  | [] => s
  | l :: rest =>
    { s with
      space := if join then s.space ++ '\n' :: l else l
      left := rest
      number := s.number + 1 }

/-- A line in which every character can be seen. -/
def visibleLine (cs : List Char) : List Char :=
  let octal (n : Nat) : List Char := ((Nat.toDigits 8 (512 + n)).drop 1)
  cs.flatMap fun c =>
    match c with
    | '\\' => ['\\', '\\']
    | '\n' => ['\\', 'n']
    | '\t' => ['\\', 't']
    | '\r' => ['\\', 'r']
    | c =>
      if c.toNat == 7 then ['\\', 'a']
      else if c.toNat == 8 then ['\\', 'b']
      else if c.toNat == 12 then ['\\', 'f']
      else if c.toNat == 11 then ['\\', 'v']
      else if OctetClass.print.holds c then [c]
      else '\\' :: octal c.toNat

/-- What becomes of an editor's run. -/
inductive Turn where
  /-- The next command is the one at an index. -/
  | goOn (index : Nat)
  /-- The script has come to its end; the space is written out if `shows`. -/
  | cycle (shows : Bool)
  /-- The script starts again without another line. -/
  | again
  | quit (status : Nat) (shows : Bool)

/-- Where a label stands. -/
def Manner.labelled (m : Manner) (name : String) : Turn :=
  if name.isEmpty then .cycle true
  else
    match m.commands.toList.findIdx? fun c =>
        match c.action with | .label l => l == name | _ => false with
    | some i => .goOn i
    | none => .cycle true

/-- Carries out a command that counts. -/
def Manner.act (m : Manner) (s : State) (index : Nat) (c : Command) : Turn × State :=
  let on (s : State) : Turn × State := (.goOn (index + 1), s)
  match c.action with
  | .block _ | .nothing | .label _ => on s
  | .number => on (s.showText ((toString s.number).toList ++ ['\n']))
  | .append text => on { s with queue := s.queue ++ [text] }
  | .insert text => on (s.showText text)
  | .change text =>
    let within : Bool := (s.begun.lookup index).isSome && !c.inverted
    (.cycle false, if within then s else s.showText text)
  | .branch name => (m.labelled name, s)
  | .branchIf name => if s.replaced then (m.labelled name, { s with replaced := false }) else on s
  | .branchUnless name =>
    if s.replaced then on { s with replaced := false } else (m.labelled name, s)
  | .delete => (.cycle false, s)
  | .deleteFirst =>
    match s.space.dropWhile (· != '\n') with
    | _ :: rest => (.again, { s with space := rest })
    | [] => (.cycle false, s)
  | .get => on { s with space := s.held }
  | .getMore => on { s with space := s.space ++ '\n' :: s.held }
  | .hold => on { s with held := s.space }
  | .holdMore => on { s with held := s.held ++ '\n' :: s.space }
  | .exchange => on { s with space := s.held, held := s.space }
  | .list => on (s.showText (visibleLine s.space ++ ['$', '\n']))
  | .next =>
    if s.isLast then (.quit 0 true, s) else on ((s.closed m.quiet).read false)
  | .nextMore =>
    if s.isLast then (.quit 0 true, s)
    else on (s.flushed.read true)
  | .print => on (s.show s.space)
  | .printFirst => on (s.showText (s.space.takeWhile (· != '\n') ++ ['\n']))
  | .quit status shows => (.quit status shows, s)
  | .readFile path => on { s with queue := s.queue ++ [(s.known.lookup path).getD []] }
  | .writeFile path =>
    if path == "/dev/stdout" then on (s.show s.space)
    else on { s with written := s.written.map fun (p, t) =>
      (p, if p == path then t ++ s.space ++ ['\n'] else t) }
  | .translate table => on { s with space := s.space.map fun c => (table.lookup c).getD c }
  | .substitute sub =>
    match s.pattern sub.pattern with
    | none => on s
    | some (e, folded) =>
      let subject := subjectOf s.space (folded || m.folded)
      let (text, any) := substituted e subject sub (s.space.length + 2) 0 0 none
      let s := { s with lastPattern := some (e, folded) }
      if !any then on s
      else
        let s := { s with space := text, replaced := true }
        let s := if sub.prints then s.show s.space else s
        on (match sub.file with
          | some path => { s with written := s.written.map fun (p, t) =>
              (p, if p == path then t ++ s.space ++ ['\n'] else t) }
          | none => s)

/-- Runs the script over the lines that are left, from a command on; gives the status. -/
def Manner.run (m : Manner) : Nat → Nat → State → Option Nat × State
  | 0, _, s => (none, s)
  | fuel + 1, index, s =>
    let nextCycle (s : State) : Option Nat × State :=
      if s.isLast then (some 0, s)
      else Manner.run m fuel 0 { s.read false with replaced := false }
    match m.commands[index]? with
    | none => nextCycle (s.closed m.quiet)
    | some c =>
      let (chosen, s) := s.counts index c.scope
      if chosen == c.inverted then
        match c.action with
        | .block behind => Manner.run m fuel behind s
        | _ => Manner.run m fuel (index + 1) s
      else
        match m.act s index c with
        | (.goOn i, s) => Manner.run m fuel i s
        | (.cycle shows, s) => nextCycle (s.closed (m.quiet || !shows))
        | (.again, s) => Manner.run m fuel 0 (s.closed true)
        | (.quit status shows, s) => (some status, s.closed (m.quiet || !shows))

/-- The files that a script reads, and those that it writes. -/
def filesOf (commands : List Command) : List String × List String :=
  (commands.filterMap fun c => match c.action with | .readFile p => some p | _ => none,
    commands.filterMap fun c =>
      match c.action with
      | .writeFile p => some p
      | .substitute s => s.file
      | _ => none)

/-- Edits some lines; gives the status and what has been written. -/
def Manner.edited (m : Manner) (start : State) (cs : List Char) : Option Nat × State :=
  let (ls, ended) := linesOf cs
  match ls with
  | [] => (some 0, start)
  | _ => m.run (200 * (ls.length + 10) + 20 * m.commands.size + 2000) 0
      ({ start with left := ls, ended }.read false)

end TestFleet.Shell.Program.Edit

namespace TestFleet.Shell.Program

open Files (Octets Failure)

/-- The script that `sed` is given, and the files. -/
def sedScript (g : Given) : Doing (List Char × List String) := do
  let mut parts : List (List Char) := []
  for (key, value) in g.options do
    if key == "e" then parts := parts ++ [value.toList]
    if key == "f" then
      match ← contentOf true value with
      | .ok cs => parts := parts ++ [Text.dropWhileEnd (· == '\n') cs]
      | .error why => fail 1 ("couldn't open file " ++ value ++ ": " ++ why)
  if !parts.isEmpty then pure (['\n'].intercalate parts, g.operands)
  else
    match g.operands with
    | s :: files => pure (s.toList, files)
    | [] => do
      say 2 "Usage: sed [OPTION]... \x7bscript-only-if-no-other-script\x7d [input-file]...\n"
      throw (.exit 1)

/-- Edits the lines of files. -/
def sed (args : List String) : Doing Nat := do
  let g ← given 1 true ("n/quiet/silent e=/expression f=/file E/regexp-extended r i?/in-place "
    ++ "s/separate u/unbuffered z/null-data l= /posix /debug b") args
  let (text, files) ← sedScript g
  let commands ←
    match Edit.script (g.has "E" || g.has "r") text with
    | .ok cs => pure cs
    | .error f => fail 1 ("-e expression #1, char " ++ toString f.at_ ++ ": " ++ f.message)
  let quiet := g.has "n" || text.take 3 == "#n\n".toList
  let m : Edit.Manner := ⟨quiet, false, commands.toArray⟩
  let (reads, writes) := Edit.filesOf commands
  let mut known : List (String × List Char) := []
  for p in reads do
    match ← contentOf true p with
    | .ok cs => known := (p, cs) :: known
    | .error _ => pure ()
  for p in writes do
    let s ← get
    if p != "/dev/stdout" then
      let _ ← changing ("couldn't open file " ++ p)
        (editedAt s.umask s.clock (plainPath p) fun _ => [])
  let start : Edit.State :=
    { space := [], held := [], left := [], ended := true, number := 0, queue := [], begun := []
      lastPattern := none, replaced := false, out := [], unended := false
      written := writes.map (·, []), known := known }
  let mut status := 0
  let mut inputs : List (String × List Char) := []
  for path in (if files.isEmpty then ["-"] else files) do
    match ← contentOf (!g.has "i") path with
    | .ok cs => inputs := inputs ++ [(path, cs)]
    | .error why =>
      blame (if why == Failure.isDirectory.words then
          if g.has "i" then "couldn't edit " ++ path ++ ": not a regular file"
          else "read error on " ++ path ++ ": " ++ why
        else "can't read " ++ path ++ ": " ++ why)
      status := if g.has "i" && why == Failure.isDirectory.words then 4 else 2
  let whole (cs : List Char) : List Char :=
    if cs.isEmpty || cs.getLast? == some '\n' then cs else cs ++ ['\n']
  let separate := g.has "i" || g.has "s"
  let runs : List (String × List Char) :=
    if separate then inputs
    else
      [("-", ((inputs.dropLast).flatMap fun (_, cs) => whole cs)
        ++ ((inputs.getLast?.map (·.2)).getD []))]
  let mut state := start
  for (path, cs) in runs do
    let number := if g.has "i" || g.has "s" then 0 else state.number
    match m.edited { state with number, out := [], unended := false } cs with
    | (none, after) =>
      print after.out.reverse.flatten
      throw .endless
    | (some n, after) =>
      if n != 0 then status := n
      state := { after with begun := [] }
      let shown := after.out.reverse.flatten
      if g.has "i" then
        let s ← get
        let rest := Edit.State.left after |>.flatMap (· ++ ['\n'])
        let octets := Text.Bytewise.octets (String.ofList (shown ++ rest))
        match g.value? "i" with
        | some ending =>
          if !ending.isEmpty then
            let backup :=
              if ending.toList.contains '*' then ending.replace "*" path else path ++ ending
            let _ ← changing backup (editedAt s.umask s.clock (plainPath backup) fun _ =>
              Text.Bytewise.octets (String.ofList cs))
        | none => pure ()
        let _ ← changing path fun t => do
          let place ← t.resolve (plainPath path)
          let traits := t.traitsAt place
          t.allowChange place
          let anew ← editedAt s.umask s.clock (plainPath path) (fun _ => octets) (t.erase place)
          pure (anew.setTraits place { traits with changed := s.clock })
      else print shown
  for (p, cs) in state.written do
    let s ← get
    if p != "/dev/stdout" then
      let octets := Text.Bytewise.octets (String.ofList cs)
      let _ ← changing p (editedAt s.umask s.clock (plainPath p) (· ++ octets))
  pure status

end TestFleet.Shell.Program
