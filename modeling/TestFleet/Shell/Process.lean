import TestFleet.Shell.Evaluation
import TestFleet.Host
/-!
# Commands as processes

A command is run by a shell on a host. It ends with an exit code or by a signal, unless it is
stopped from outside first; its output ends when the last process that holds it has ended, which
may be later.
-/
namespace TestFleet.Shell

open Files (Octets Failure)

/-- How a process ended. -/
inductive Exit where
  | code (n : Nat)
  | signal (n : Nat)
  deriving DecidableEq, Repr, Inhabited

namespace Exit

/-- The end as people read it. -/
def text : Exit → String
  | .code n => "exit status: " ++ toString n
  | .signal n =>
    match Builtin.signals.lookup n with
    | some name => "signal: " ++ toString n ++ " (SIG" ++ name ++ ")"
    | none => "signal: " ++ toString n

/-- Whether the process ended well. -/
def success (e : Exit) : Bool := e == .code 0

end Exit

/-- A command to be run. -/
structure Launch where
  shell : String
  command : String
  /-- Variables beside those of the host. -/
  environment : List (String × String)
  directory : Option String
  /-- How long it may run. -/
  limit : Option Time.Span

/-- What came of a command. -/
structure Ended where
  /-- How it ended; nothing if it was stopped from outside. -/
  exit : Option Exit
  /-- When it ended, after its start. -/
  ranFor : Time.Span
  /-- When its output ended, after its start. -/
  openFor : Time.Span
  out : Octets
  err : Octets

namespace Launch

/-- The depth to which a script may nest and repeat. -/
def fuel : Nat := 20000

/-- The number of the first process. -/
def firstPid : Nat := 1000

/-- The permissions that new files do not get. -/
def firstUmask : Nat := 0o022

/-- Texts that cannot be handed to a process. -/
def holdsNul (l : Launch) : Bool :=
  let bad (s : String) : Bool := s.toList.any (·.toNat == 0)
  bad l.shell || bad l.command || l.environment.any fun (n, v) => bad n || bad v

/-- The files seen from the directory that the command starts in. -/
def startFiles (l : Launch) (files : Files.Tree) : Except Failure Files.Tree :=
  match l.directory with
  | none => .ok files
  | some d =>
    match files.find d with
    | .ok (place, .directory) =>
      if files.permits .search place then .ok { files with current := place }
      else .error .permission
    | .ok _ => .error .notDirectory
    | .error e => .error e

/-- The variables that the shell starts with: those of the environment, and its own. -/
def startVariables (l : Launch) (host : Host) (directory : String) : List (String × Variable) :=
  let given := l.environment.foldl (fun vars (n, v) => (n, v) :: vars.filter (·.1 != n))
    host.environment
  let seen : List (String × Variable) := given.filterMap fun (n, v) =>
    let name := Text.Bytewise.ofText n
    if isName name then some (name, ⟨some (Text.Bytewise.ofText v), true, false⟩) else none
  let own (name value : String) (exported : Bool) (vars : List (String × Variable)) :=
    (name, (⟨some value, exported, false⟩ : Variable)) :: vars.filter (·.1 != name)
  let unlessGiven (name value : String) (vars : List (String × Variable)) :=
    if (vars.lookup name).isSome then vars else own name value false vars
  own "IFS" " \t\n" false (own "OPTIND" "1" false (own "PWD" directory true
    (own "PPID" (toString (firstPid - 1)) false (unlessGiven "PATH" Program.usualPath
      (unlessGiven "PS1" "$ " (unlessGiven "PS2" "> " (unlessGiven "PS4" "+ " seen)))))))

/-- The state in which a command starts. -/
def start (l : Launch) (host : Host) (files : Files.Tree) : Session :=
  let directory := Program.pathOf files.current
  { disk := ⟨files, []⟩
    epoch := host.clock.seconds * Program.second + host.clock.nanos
    now := 0
    limit := l.limit.map (·.nanos)
    fresh := firstPid + 1
    pipes := [(0, ⟨[], 0⟩), (1, ⟨[], never⟩), (2, ⟨[], never⟩)]
    holders := []
    signals := []
    recorded := []
    coming := []
    unwritten := false
    descriptors := [(0, .pipe 0), (1, .pipe 1), (2, .pipe 2)]
    vars := l.startVariables host directory
    functions := []
    aliases := []
    args := []
    zero := Text.Bytewise.ofText l.shell
    self := firstPid
    pid := firstPid
    dialect := .plain
    line := 1
    status := 0
    substituted := 0
    within := none
    jobs := []
    lastJob := none
    seen := 0
    handed := none
    dead := none
    options := []
    loops := 0
    inFunction := false
    locals := []
    traps := []
    kept := none
    umask := firstUmask
    optionAt := (1, 0)
    directory := directory
    hashed := []
    limits := []
    job := 0 }

/-- Ends as a program did whose place a process has taken. -/
def replaced (status : Nat) : Doing Unit := do
  match (← get).dead with
  | some n => throw (.killed n)
  | none => modify fun t => { t with status }

/-- What the program called as a shell does, or why there is none. -/
def job (l : Launch) (s : Session) : Except Failure (Session × Doing Unit) :=
  let shell := Text.Bytewise.ofText l.shell
  let command := Text.Bytewise.ofText l.command
  match s.search s.searchPath shell with
  | .ok (.program _ name) =>
    match dialectOf? name with
    | some dialect =>
      let start := { s with dialect }
      let refused (why : String) : Session × Doing Unit :=
        (start, do
          say 2 (shell ++ ": 0: " ++ why ++ "\n")
          throw (.exit 2))
      match shellCall ["-c", command] with
      | .error why => .ok (refused why)
      | .ok call =>
        match call.operands with
        | [] => .ok (refused "-c requires an argument")
        | text :: _ =>
          .ok ({ start with options := call.options }, untilExit fuel (runText fuel text))
    | none =>
      .ok (s, do
        let status ← runFound fuel shell (.program shell name) ["-c", command]
        replaced status)
  | .ok (.script path text) =>
    if (interpreter? text).isNone then .error .badFormat
    else
      .ok (s, do
        let status ← runFound fuel shell (.script path text) ["-c", command]
        replaced status)
  | .error .notFound => .error .notFound
  | .error .denied => .error .permission
  | .error (.failed f) => .error f

/-- How a script that stopped has ended. -/
def exitOf (r : Except Stop Unit) (s : Session) : Option Exit :=
  match r with
  | .error (.killed n) => some (.signal n)
  | _ => (statusOf? r s).map .code

/-- Runs a command on a host. The clock does not move: the caller decides how long it waits. -/
def run (l : Launch) (host : Host) : Except Failure (Ended × Host) := do
  if l.holdsNul then throw .nulInArgument
  let files ← l.startFiles (Program.withSystem host.files)
  let (start, job) ← l.job (l.start host files)
  let (r, s) : Except Stop Unit × Session := job start
  let exit : Option Exit :=
    match exitOf r s, l.limit with
    | some e, some limit => if limit.nanos ≤ s.now then none else some e
    | e, _ => e
  let closes := max (s.released 1) (s.released 2)
  let after := { s with now := closes }.settled
  let tree := Program.withoutSystem host.files after.disk.tree
  pure (⟨exit, ⟨s.now⟩, ⟨closes⟩, s.pipeContent 1, s.pipeContent 2⟩,
    { host with files := { tree with current := host.files.current } })

end Launch

end TestFleet.Shell
