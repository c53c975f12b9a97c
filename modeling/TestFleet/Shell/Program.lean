import TestFleet.Shell.Builtin
import TestFleet.Shell.Program.Copies
import TestFleet.Shell.Program.Dump
import TestFleet.Shell.Program.Edit
import TestFleet.Shell.Program.Runner
import TestFleet.Shell.Program.Search
import TestFleet.Shell.Program.Table
/-!
# The programs of a host

A program is known by its name and stands as a file in the directory for programs. A command whose
name is not known does not exist, unless a script has that name.
-/
namespace TestFleet.Shell.Program

open Files (Octets Failure Place Node Tree)

/-- The directories in which programs are looked for unless something else is said. -/
def usualPath : String := "/usr/local/sbin:/usr/local/bin:/usr/sbin:/usr/bin:/sbin:/bin"

/-- Shows variables. -/
def printenv (args : List String) : Doing Nat := do
  let g ← given 2 false "0/null" args
  let s ← get
  let ending := if g.has "0" then String.singleton (Char.ofNat 0) else "\n"
  match g.operands with
  | [] =>
    for (n, v) in s.environment do say 1 (n ++ "=" ++ v ++ ending)
    pure 0
  | names =>
    let mut status := 0
    for n in names do
      match s.environment.lookup n with
      | some v => say 1 (v ++ ending)
      | none => status := 1
    pure status

/-- Prints its arguments; escapes count only if `-e` asks for it. -/
def echo (args : List String) : Doing Nat := do
  let isOption (a : String) : Bool :=
    a.startsWith "-" && 1 < a.length && (a.toList.drop 1).all ("neE".toList.contains ·)
  let front := args.takeWhile isOption
  let letters := front.flatMap fun a => a.toList.drop 1
  let escapes := (letters.filter (· != 'n')).getLast? == some 'e'
  let words := args.drop front.length
  say 1 (Printing.echo escapes
    (if letters.contains 'n' then "-n" :: words
      else match words with
        | "-n" :: _ => ["-n " ++ " ".intercalate (words.drop 1)]
        | _ => words))
  pure 0

/-- Shows the present directory. -/
def pwd (_ : List String) : Doing Nat := do
  say 1 (pathOf (← get).tree.current ++ "\n")
  pure 0

/-- Shows the name of the system. -/
def uname (args : List String) : Doing Nat := do
  let _ ← given 1 true "a/all s/kernel-name n r v m p i o" args
  say 1 "Linux\n"
  pure 0

/-- The programs that do their work themselves. -/
def table : List (String × (List String → Doing Nat)) :=
  [("cat", cat), ("tac", tac), ("rev", rev), ("head", head), ("tail", tail), ("wc", wc),
    ("tee", tee), ("yes", yes), ("od", od), ("sort", sort), ("uniq", uniq), ("cut", cut),
    ("tr", tr), ("sed", sed), ("grep", grep), ("egrep", grepAs "E"), ("fgrep", grepAs "F"),
    ("expr", expr), ("seq", seq), ("sleep", sleep), ("mkdir", mkdir), ("rmdir", rmdir), ("rm", rm),
    ("cp", cp), ("mv", mv), ("ln", ln), ("link", link), ("unlink", unlink), ("touch", touch),
    ("chmod", chmod), ("ls", ls), ("stat", stat), ("readlink", readlink), ("realpath", realpath), ("basename", basename), ("dirname", dirname),
    ("mktemp", mktemp), ("date", date), ("printenv", printenv), ("echo", echo), ("pwd", pwd),
    ("uname", uname), ("printf", Builtin.printf), ("test", Builtin.test), ("[", Builtin.bracket),
    ("kill", Builtin.kill), ("true", fun _ => pure 0), ("false", fun _ => pure 1),
    ("sync", fun _ => pure 0)]

/-- The program of a name, if it does its work itself. -/
def ofName? (name : String) : Option (List String → Doing Nat) := table.lookup name

/-- The programs that run others. -/
def runners : List String := ["env", "nohup", "nice", "setsid", "timeout", "xargs", "find",
  "which"]

/-- The shells. -/
def shells : List String := ["sh", "dash", "bash"]

/-- The directory that programs stand in. -/
def home : Place := ["usr", "bin"]

/-- The name of the program that stands at a place. -/
def at? : Place → Option String
  | ["usr", "bin", name] =>
    if (ofName? name).isSome || runners.contains name || shells.contains name then some name
    else none
  | _ => none

/-- What a system has of files and directories that its users cannot change. -/
def systemNodes : List (Place × Node) :=
  let names := table.map (·.1) ++ runners ++ shells
  [(["bin"], .link "usr/bin"), (["sbin"], .link "usr/sbin"), (["lib"], .link "usr/lib"),
    (["usr"], .directory), (["usr", "bin"], .directory), (["usr", "sbin"], .directory),
    (["usr", "lib"], .directory), (["usr", "share"], .directory),
    (["usr", "local"], .directory), (["usr", "local", "bin"], .directory),
    (["usr", "local", "sbin"], .directory), (["etc"], .directory),
    (["etc", "passwd"], .file []), (["etc", "group"], .file []), (["var"], .directory),
    (["var", "tmp"], .directory), (["proc"], .directory), (["sys"], .directory),
    (["opt"], .directory), (["root"], .directory), (["run"], .directory),
    (["home"], .directory), (["tmp"], .directory), (["dev"], .directory),
    (["dev", "null"], .sink)]
    ++ names.map fun n => (home ++ [n], .file [])

/-- The traits of what a system has. -/
def systemTraits (place : Place) (node : Node) : Files.Traits :=
  match place, node with
  | ["tmp"], _ | ["var", "tmp"], _ => ⟨0o1777, 0⟩
  | ["root"], _ => ⟨0o000, 0⟩
  | ["etc", _], _ => ⟨0o444, 0⟩
  | _, .directory | _, .file _ => ⟨0o555, 0⟩
  | _, n => ⟨n.usualMode, 0⟩

/-- A tree with what a system has and the tree has not. -/
def withSystem (t : Tree) : Tree :=
  let new := systemNodes.filter fun (p, _) => (t.nodes.lookup p).isNone
  let known := t.traits.map (·.1)
  { t with
    nodes := t.nodes ++ new
    traits := t.traits ++ (new.filterMap fun (p, n) =>
      if known.contains p then none else some (p, systemTraits p n))
      ++ (if known.contains [] then [] else [([], ⟨0o555, 0⟩)]) }

/-- A tree without what a system has and a former tree had not. -/
def withoutSystem (former t : Tree) : Tree :=
  let places := (systemNodes.map (·.1)).filter fun p => (former.nodes.lookup p).isNone
  let places := if (former.traits.lookup []).isNone then [] :: places else places
  { t with
    nodes := t.nodes.filter fun (p, _) => !places.contains p
    traits := t.traits.filter fun (p, _) => !places.contains p }

end TestFleet.Shell.Program

namespace TestFleet.Shell

/-- Runs a program under a name: it ends where it says so, and complains if it could not write what
it wanted to. -/
def inProgram (name : String) (x : Doing Nat) : Doing Nat := fun s =>
  match x { s with within := some name, unwritten := false } with
  | (r, t) =>
    let after := { t with within := s.within, unwritten := s.unwritten }
    match r with
    | .ok status | .error (.exit status) =>
      if t.unwritten && !t.canWrite 1 then
        let complaint := name ++ ": write error: Bad file descriptor\n"
        (.ok (max status 1), after.write 2 (Text.Bytewise.octets complaint))
      else (.ok status, after)
    | .error e => (.error e, after)

end TestFleet.Shell
