import TestFleet.Shell.Disk
import TestFleet.Shell.Script
import TestFleet.Text.Bytewise
/-!
# The state of a running shell

A session holds the disk, the variables, what the descriptors stand for, the jobs in the
background, the signals under way and the time since the command was started. What is written into
a pipe is kept with the moment of writing, so that output can be ordered by time. All texts are
bytewise.
-/
namespace TestFleet.Shell

open Files (Octets Failure Place Tree)

/-- What a descriptor stands for. -/
inductive Target where
  | pipe (number : Nat)
  | file (number : Nat)
  deriving DecidableEq, Repr, Inhabited

/-- Something written, when, and by which background job, 0 if by none. -/
structure Chunk where
  at_ : Nat
  job : Nat
  octets : Octets
  deriving Inhabited

/-- A moment that no command reaches. -/
def never : Nat := Nat.pow 10 24

/-- A pipe: what was written to it, the last first, and when nothing more can be written. -/
structure Pipe where
  chunks : List Chunk
  closes : Nat
  deriving Inhabited

/-- A process that keeps pipes open until it ends. -/
structure Holder where
  pid : Nat
  ends : Nat
  pipes : List Nat
  deriving Inhabited

/-- A signal on its way to a process. -/
structure Signal where
  pid : Nat
  at_ : Nat
  number : Nat
  deriving DecidableEq, Repr, Inhabited

/-- What all processes that a command starts have in common. -/
structure Machine where
  disk : Disk
  /-- When the command was started, in nanoseconds after 1970 began. -/
  epoch : Int
  /-- Nanoseconds since the command was started. -/
  now : Nat
  /-- When the command is stopped from outside, if ever. -/
  limit : Option Nat
  /-- The next number for a pipe, an open file or a process. -/
  fresh : Nat
  pipes : List (Nat × Pipe)
  holders : List Holder
  signals : List Signal
  /-- What background jobs have changed, the last first. -/
  recorded : List Effect
  /-- Changes by background jobs that lie ahead. -/
  coming : List Effect
  /-- Whether something could not be written. -/
  unwritten : Bool
  deriving Inhabited

/-- A command that runs in the background. -/
structure Job where
  /-- The number by which the shell knows it. -/
  number : Nat
  pid : Nat
  /-- How many commands it is a pipeline of. -/
  parts : Nat
  /-- When it ends. -/
  ends : Nat
  /-- Its status, above 128 if a signal ends it. -/
  status : Nat
  /-- The signal that ends it. -/
  signal : Option Nat
  /-- The signals that it does not heed. -/
  ignores : List Nat
  /-- Whether the shell has waited for its end. -/
  waited : Bool
  deriving Inhabited

/-- A variable. One that was only declared has no value. -/
structure Variable where
  value : Option String
  /-- Whether commands see it. -/
  exported : Bool
  /-- Whether it may not change any more. -/
  fixed : Bool
  deriving Repr, Inhabited

/-- Shells whose habits differ. -/
inductive Dialect where
  | plain
  | bash
  deriving DecidableEq, Repr, Inhabited

/-- The state of a running shell. -/
structure Session extends Machine where
  descriptors : List (Nat × Target)
  vars : List (String × Variable)
  functions : List (String × Nat × Command)
  aliases : List (String × String)
  args : List String
  /-- The name under which the shell runs. -/
  zero : String
  /-- The number of the process that runs. -/
  self : Nat
  /-- The number of the shell that it is a part of. -/
  pid : Nat
  dialect : Dialect
  line : Nat
  status : Nat
  /-- The status of the last command whose output went into a word of the present command. -/
  substituted : Nat
  /-- The command of the shell's own that is being carried out. -/
  within : Option String
  /-- The background jobs that are remembered, the last started last. -/
  jobs : List Job
  lastJob : Option Nat
  /-- When the shell last saw which of its processes had ended. -/
  seen : Nat
  /-- The signal that has ended the program that was run last. -/
  dead : Option Nat
  /-- The variables that a program has chosen for the one that it becomes. -/
  handed : Option (List (String × String))
  /-- The options that are on, by their letters. -/
  options : List Char
  /-- How many loops the shell is in. -/
  loops : Nat
  /-- Whether a function is running. -/
  inFunction : Bool
  /-- The variables of the running function, with what they are outside it. -/
  locals : List (String × Option Variable)
  /-- What is done on signals, and on the exit as signal 0; nothing if the text is empty. -/
  traps : List (Nat × String)
  /-- The status before what is now being done on a signal. -/
  kept : Option Nat
  umask : Nat
  /-- The argument that options are read from next, and how far it has been read. -/
  optionAt : Nat × Nat
  /-- The present directory as it was walked to. -/
  directory : String
  /-- The programs that have been looked for. -/
  hashed : List String
  /-- The limits that have been set, each with the one that may not be raised. -/
  limits : List (Char × Option Nat × Option Nat)
  /-- The background job that the shell is a part of, 0 if of none. -/
  job : Nat
  deriving Inhabited

/-- Why a command does not go on to the next one. -/
inductive Stop where
  | exit (status : Nat)
  /-- The process has become another one, which has ended. -/
  | replaced (status : Nat)
  /-- Something was wrong that a shell does not survive. -/
  | fault
  | killed (signal : Nat)
  | leaveLoop (levels : Nat)
  | nextRound (levels : Nat)
  | return (status : Nat)
  /-- It still runs when it is stopped from outside, or waits for ever. -/
  | unending
  /-- It goes on and on. -/
  | endless
  deriving DecidableEq, Repr, Inhabited

/-- Something a shell does. -/
abbrev Doing := ExceptT Stop (StateM Session)

namespace Session

/-- How long it takes to start a process, in nanoseconds. -/
def startTime : Nat := 1000

/-- How far the clock that files are stamped by goes at once, in nanoseconds. -/
def clockStep : Nat := 4000000

/-- The time of day, in nanoseconds after 1970 began. -/
def clock (s : Session) : Int := s.epoch + (s.now / clockStep * clockStep : Nat)

/-- Whether an option is on. -/
def has (s : Session) (letter : Char) : Bool := s.options.contains letter

/-- The value of a variable. -/
def var? (s : Session) (name : String) : Option String := (s.vars.lookup name).bind (·.value)

/-- The session with a variable set; it stays exported if it is. -/
def setVar (s : Session) (name value : String) : Session :=
  let old := s.vars.lookup name
  let v : Variable :=
    ⟨some value, (old.map (·.exported)).getD false || s.has 'a', (old.map (·.fixed)).getD false⟩
  { s with
    vars := if old.isSome then s.vars.map fun (n, w) => (n, if n == name then v else w)
      else (name, v) :: s.vars
    optionAt := if name == "OPTIND" then (max 1 (value.toNat?.getD 1), 0) else s.optionAt }

/-- The session with a variable as it was before, or without it. -/
def restoreVar (s : Session) (name : String) (former : Option Variable) : Session :=
  let others := s.vars.filter (·.1 != name)
  { s with vars := match former with | some v => (name, v) :: others | none => others }

/-- The part of the shell's store that a variable is kept in. Commands see the variables in the
order of these parts, and in each in the order in which they were made. -/
def drawer (name : String) : Nat :=
  let codes := name.toList.map Char.toNat
  (codes.foldl (· + ·) (16 * codes.headD 0)) % 39

/-- The variables that commands see. -/
def environment (s : Session) : List (String × String) :=
  match s.handed with
  | some given => given
  | none =>
    let seen := s.vars.reverse.filterMap fun (n, v) =>
      if v.exported then v.value.map (n, ·) else none
    seen.mergeSort fun a b => drawer a.1 ≤ drawer b.1

/-- A change of the disk. -/
def act (s : Session) (f : Disk → Disk) : Session :=
  let g (d : Disk) : Disk := if d.opened.isEmpty then f d else d.keeping (f d)
  { s with
    disk := g s.disk
    recorded := if s.job == 0 then s.recorded else ⟨s.now, s.job, g⟩ :: s.recorded }

/-- A change of the tree of files that may fail. -/
def change (s : Session) (f : Tree → Except Failure Tree) : Except Failure Session :=
  match f s.disk.tree with
  | .ok _ => .ok (s.act (Disk.changing s.disk.tree.current f))
  | .error e => .error e

/-- The tree of files. -/
def tree (s : Session) : Tree := s.disk.tree

/-- What a path leads to. -/
def find (s : Session) (path : String) : Except Failure (Place × Files.Node) :=
  s.tree.find (Text.Bytewise.toText path)

/-- The content of a file. -/
def content (s : Session) (path : String) : Except Failure Octets :=
  s.tree.read (Text.Bytewise.toText path)

/-- The session after the effects whose time has come. -/
def settled (s : Session) : Session :=
  let (due, later) := s.coming.partition (·.at_ ≤ s.now)
  if due.isEmpty then s
  else
    { s with
      disk := (due.mergeSort fun a b => a.at_ ≤ b.at_).foldl (fun d e => e.act d) s.disk
      coming := later }

/-- The session with something written to a pipe. -/
def writePipe (s : Session) (number : Nat) (octets : Octets) : Session :=
  { s with pipes := s.pipes.map fun (n, p) =>
      if n == number then (n, { p with chunks := ⟨s.now, s.job, octets⟩ :: p.chunks }) else (n, p) }

/-- Whether something can be written to a descriptor. -/
def canWrite (s : Session) (descriptor : Nat) : Bool :=
  match s.descriptors.lookup descriptor with
  | some (.pipe n) => n != 0
  | some (.file id) => ((s.disk.opened.lookup id).map (·.writes)).getD false
  | none => false

/-- The session with something written to a descriptor. -/
def write (s : Session) (descriptor : Nat) (octets : Octets) : Session :=
  if octets.isEmpty then s
  else if !s.canWrite descriptor then { s with unwritten := true }
  else
    match s.descriptors.lookup descriptor with
    | some (.pipe n) => s.writePipe n octets
    | some (.file id) => s.act fun d => d.write id octets s.clock
    | none => s

/-- What a pipe holds, in the order of time. -/
def pipeContent (s : Session) (number : Nat) : Octets :=
  let chunks := ((s.pipes.lookup number).map (·.chunks)).getD []
  (chunks.reverse.mergeSort fun a b => a.at_ ≤ b.at_).flatMap (·.octets)

/-- When a pipe closes. -/
def pipeCloses (s : Session) (number : Nat) : Nat :=
  ((s.pipes.lookup number).map (·.closes)).getD 0

/-- The session with the content of a pipe changed for another. -/
def setPipe (s : Session) (number : Nat) (octets : Octets) : Session :=
  { s with pipes := s.pipes.map fun (n, p) =>
      if n == number then (n, { p with chunks := [⟨s.now, s.job, octets⟩] }) else (n, p) }

/-- When the last process that holds a pipe has ended, if no other will hold it. -/
def released (s : Session) (number : Nat) : Nat :=
  (s.holders.filter (·.pipes.contains number)).foldl (fun m h => max m h.ends) s.now

/-- The session with a pipe that closes at a time. -/
def closePipe (s : Session) (number time : Nat) : Session :=
  { s with pipes := s.pipes.map fun (n, p) =>
      if n == number then (n, { p with closes := time }) else (n, p) }

/-- A new pipe with a content. -/
def openPipe (s : Session) (content : Octets) : Nat × Session :=
  (s.fresh, { s with
    pipes := (s.fresh, ⟨[⟨s.now, s.job, content⟩], 0⟩) :: s.pipes
    fresh := s.fresh + 1 })

/-- A file opened. -/
def openFile (s : Session) (place : Place) (opening : Opening) : Nat × Session :=
  let o : Opened := ⟨place, 0, opening == .append, opening == .input || opening == .both,
    opening != .input⟩
  let id := s.fresh
  (id, { s with fresh := s.fresh + 1 }.act fun d => { d with opened := (id, o) :: d.opened })

/-- The pipes that the descriptors stand for. -/
def heldPipes (s : Session) : List Nat :=
  s.descriptors.filterMap fun (_, t) => match t with | .pipe n => some n | .file _ => none

/-- A descriptor made to stand for something. -/
def redirect (s : Session) (descriptor : Nat) (target : Target) : Session :=
  { s with descriptors :=
      (descriptor, target) :: s.descriptors.filter (·.1 != descriptor) }

/-- A descriptor that stands for nothing any more. -/
def close (s : Session) (descriptor : Nat) : Session :=
  { s with descriptors := s.descriptors.filter (·.1 != descriptor) }

end Session

/-- Writes text to a descriptor. -/
def say (descriptor : Nat) (text : String) : Doing Unit :=
  modify fun s => s.write descriptor (Text.Bytewise.octets text)

/-- Writes a complaint of the shell, which names the command that it is carrying out. -/
def complain (message : String) : Doing Unit := do
  let s ← get
  let place :=
    match s.dialect with
    | .plain => toString s.line
    | .bash => "line " ++ toString s.line
  let within := match s.within with | some name => name ++ ": " | none => ""
  say 2 (s.zero ++ ": " ++ place ++ ": " ++ within ++ message ++ "\n")

/-- Stops with a complaint of the shell. -/
def refuse {α : Type} (message : String) : Doing α := do
  complain message
  throw .fault

/-- Carries something out, and then changes the session however it ended. -/
def ending {α : Type} (x : Doing α) (f : Session → Session) : Doing α := fun s =>
  match x s with
  | (r, t) => (r, f t)

/-- Lets time pass, up to the moment when the command is stopped from outside. -/
def pass (nanos : Nat) : Doing Unit := do
  let s ← get
  match s.limit with
  | some limit =>
    if limit ≤ s.now + nanos then
      set ({ s with now := max s.now limit }.settled)
      throw .unending
  | none => pure ()
  if never ≤ nanos then throw .unending
  set ({ s with now := s.now + nanos }.settled)

/-- Sets a variable, unless it may not change. -/
def assign (name value : String) : Doing Unit := do
  if (((← get).vars.lookup name).map (·.fixed)).getD false then refuse (name ++ ": is read only")
  modify (·.setVar name value)

/-- What can be read from a descriptor without waiting, and whether more may come. -/
def available (descriptor : Nat) : Doing (Octets × Bool) := do
  let s ← get
  match s.descriptors.lookup descriptor with
  | some (.pipe n) => pure (s.pipeContent n, s.now < s.pipeCloses n)
  | some (.file id) => pure (s.disk.rest id, false)
  | none => pure ([], false)

/-- Waits until nothing more can come from a descriptor. -/
def awaitEnd (descriptor : Nat) : Doing Unit := do
  let s ← get
  match s.descriptors.lookup descriptor with
  | some (.pipe n) => pass (s.pipeCloses n - s.now)
  | _ => pure ()

/-- Uses up octets that can be read from a descriptor. -/
def consume (descriptor count : Nat) : Doing Unit :=
  modify fun s =>
    match s.descriptors.lookup descriptor with
    | some (.pipe n) => s.setPipe n ((s.pipeContent n).drop count)
    | some (.file id) => s.act fun d => d.behind id count
    | none => s

/-- Why a descriptor cannot be read, if it cannot. -/
def Session.readFailure? (s : Session) (descriptor : Nat) : Option String :=
  match s.descriptors.lookup descriptor with
  | some (.pipe _) => none
  | some (.file id) =>
    match s.disk.opened.lookup id with
    | some o =>
      if !o.reads then some "Bad file descriptor"
      else if s.tree.node? o.place == some .directory then some "Is a directory"
      else none
    | none => some "Bad file descriptor"
  | none => some "Bad file descriptor"

/-- The descriptor whose file a path of the system names. -/
def descriptorAt? (path : String) : Option Nat :=
  match path with
  | "/dev/stdin" => some 0
  | "/dev/stdout" => some 1
  | "/dev/stderr" => some 2
  | _ =>
    if path.startsWith "/dev/fd/" && 8 < path.length && (path.toList.drop 8).all Char.isDigit then
      (path.drop 8).toString.toNat?
    else none

/-- Everything that can be read from a descriptor. -/
def readAll (descriptor : Nat) : Doing Octets := do
  awaitEnd descriptor
  let (octets, _) ← available descriptor
  consume descriptor octets.length
  pure octets

end TestFleet.Shell
