import TestFleet.Shell.Session
/-!
# Calls of programs

What all programs have in common: how they read their options and operands, how they complain, and
how they read files. A program runs in the session of the shell that called it, under the name it
was called by. It ends early with `.exit`. All texts are bytewise.
-/
namespace TestFleet.Shell.Program

open Files (Octets Failure Place Node)

/-- The name under which a program runs. -/
def calledAs : Doing String := do
  pure ((← get).within.getD "")

/-- Writes text to the standard output. -/
def print (cs : List Char) : Doing Unit := say 1 (String.ofList cs)

/-- Writes a complaint of a program. -/
def blame (message : String) : Doing Unit := do
  say 2 ((← calledAs) ++ ": " ++ message ++ "\n")

/-- Ends a program with a complaint. -/
def fail {α : Type} (status : Nat) (message : String) : Doing α := do
  blame message
  throw (.exit status)

/-- Ends a program with a complaint about how it was called. -/
def misused {α : Type} (status : Nat) (message : String) : Doing α := do
  blame message
  say 2 ("Try '" ++ (← calledAs) ++ " --help' for more information.\n")
  throw (.exit status)

/-- A text in quotes, as complaints name it. -/
def named (s : String) : String := "'" ++ s ++ "'"

/-- Whether an option takes an argument. -/
inductive Taking where
  | nothing
  | always
  | perhaps
  deriving DecidableEq, Repr

/-- An option that a program knows: its letters, its long names, and the key it is kept under, the
first of them. -/
structure Known where
  key : String
  letter : Option Char
  names : List String
  takes : Taking

/-- The options that a text lists, with blanks between them: of each the letter if it has one, `=`
or `?` if it takes an argument always or perhaps, and its long names behind slashes. -/
def knownOf (text : String) : List Known :=
  (Text.splitOnChar ' ' text).filterMap fun w =>
    match Text.splitOnChar '/' w with
    | [] => none
    | front :: names =>
      let takes : Taking :=
        if front.endsWith "=" then .always else if front.endsWith "?" then .perhaps else .nothing
      let letter := front.toList.find? fun c => c != '=' && c != '?'
      let key := match letter with
        | some c => String.singleton c
        | none => names.headD ""
      some ⟨key, letter, names, takes⟩

/-- What a program was called with: options with their arguments, and operands. -/
structure Given where
  options : List (String × String)
  operands : List String
  deriving Inhabited

namespace Given

/-- Whether an option was given. -/
def has (g : Given) (key : String) : Bool := g.options.any (·.1 == key)

/-- The argument that an option was given last. -/
def value? (g : Given) (key : String) : Option String :=
  (g.options.reverse.find? (·.1 == key)).map (·.2)

/-- The last of some options that was given. -/
def last? (g : Given) (keys : List String) : Option String :=
  (g.options.reverse.find? fun o => keys.contains o.1).map (·.1)

end Given

/-- The option of a long name, which may be cut short if it stays the only one. -/
def longOption? (known : List Known) (name : String) : Except String Known :=
  let all := known.flatMap fun k => k.names.map (·, k)
  match all.lookup name with
  | some k => .ok k
  | none =>
    let near := all.filter fun (n, _) => n.startsWith name
    match near with
    | [] => .error ("unrecognized option '--" ++ name ++ "'")
    | (_, k) :: rest =>
      if rest.all fun (_, l) => l.key == k.key then .ok k
      else
        .error ("option '--" ++ name ++ "' is ambiguous; possibilities:"
          ++ String.join (near.map fun (n, _) => " '--" ++ n ++ "'"))

/-- The options and operands among some arguments. Options may stand behind operands if `mixed`. -/
def givenFrom (known : List Known) (mixed : Bool) : Nat → List String → Except String Given
  | 0, args => .ok ⟨[], args⟩
  | _ + 1, [] => .ok ⟨[], []⟩
  | fuel + 1, a :: rest =>
    let more (key value : String) (rest : List String) : Except String Given := do
      let g ← givenFrom known mixed fuel rest
      .ok { g with options := (key, value) :: g.options }
    match a.toList with
    | ['-', '-'] => .ok ⟨[], rest⟩
    | '-' :: '-' :: long => do
      let name := long.takeWhile (· != '=')
      let text := String.ofList name
      let k ← longOption? known text
      match k.takes, long.drop name.length, rest with
      | .nothing, _ :: _, _ =>
        .error ("option '--" ++ k.names.headD text ++ "' doesn't allow an argument")
      | .always, [], [] =>
        .error ("option '--" ++ k.names.headD text ++ "' requires an argument")
      | .always, [], value :: rest => more k.key value rest
      | _, _ :: value, _ => more k.key (String.ofList value) rest
      | _, [], _ => more k.key "" rest
    | '-' :: c :: others =>
      match known.find? (·.letter == some c) with
      | none => .error ("invalid option -- " ++ named (String.singleton c))
      | some k =>
        match k.takes, others, rest with
        | .always, [], [] =>
          .error ("option requires an argument -- " ++ named (String.singleton c))
        | .always, [], value :: rest => more k.key value rest
        | .nothing, [], _ => more k.key "" rest
        | .nothing, _ :: _, _ => more k.key "" (String.ofList ('-' :: others) :: rest)
        | _, _, _ => more k.key (String.ofList others) rest
    | _ =>
      if mixed then do
        let g ← givenFrom known mixed fuel rest
        .ok { g with operands := a :: g.operands }
      else .ok ⟨[], a :: rest⟩

/-- The options and operands that a program was called with; it ends with a status if they are not
as they should be. -/
def given (status : Nat) (mixed : Bool) (known : String) (args : List String) : Doing Given := do
  let steps := (args.map (·.length)).foldl (· + ·) args.length + 1
  match givenFrom (knownOf known) mixed steps args with
  | .ok g => pure g
  | .error e => misused status e

/-- What reading a file gives, in characters, or why it cannot be read; `-` is the standard input if
`dashed`. -/
def contentOf (dashed : Bool) (path : String) : Doing (Except String (List Char)) := do
  let chars (os : Octets) : List Char := (Text.Bytewise.ofOctets os).toList
  let descriptor : Option Nat := if dashed && path == "-" then some 0 else descriptorAt? path
  match descriptor with
  | some n =>
    match (← get).readFailure? n with
    | some why => pure (.error why)
    | none => do pure (.ok (chars (← readAll n)))
  | none =>
    match (← get).content path with
    | .ok os => pure (.ok (chars os))
    | .error f => pure (.error f.words)

/-- Text with ends of lines and null octets in each other's place. -/
def exchanged (cs : List Char) : List Char :=
  let null := Char.ofNat 0
  cs.map fun c => if c == '\n' then null else if c == null then '\n' else c

/-- A change of text by lines, which end in null octets if the option `z` asks for it. -/
def byLines (g : Given) (f : List Char → List Char) (cs : List Char) : List Char :=
  if g.has "z" then exchanged (f (exchanged cs)) else f cs

/-- Text as lines, their ends left out; whether the last one had an end. -/
def linesOf (cs : List Char) : List (List Char) × Bool :=
  match (Text.pieces (· == '\n') cs).reverse with
  | [] => ([], true)
  | [] :: rest => (rest.reverse, true)
  | last :: rest => ((last :: rest).reverse, false)

/-- Lines joined again. -/
def joinedLines (ls : List (List Char)) : List Char := ls.flatMap (· ++ ['\n'])

/-- A number with blanks before it, so that it has a width. -/
def padLeft (width : Nat) (s : String) : String :=
  String.ofList (List.replicate (width - s.length) ' ') ++ s

/-- Octets in a multiple of them that a suffix names. -/
def multiple? (suffix : String) : Option Nat :=
  let powers : List (String × Nat) := [("K", 1), ("M", 2), ("G", 3), ("T", 4), ("P", 5), ("E", 6)]
  match suffix with
  | "" => some 1
  | "b" => some 512
  | "k" => some 1024
  | "kB" => some 1000
  | _ =>
    powers.findSome? fun (name, n) =>
      if suffix == name || suffix == name ++ "iB" then some (Nat.pow 1024 n)
      else if suffix == name ++ "B" then some (Nat.pow 1000 n)
      else none

/-- A count, which may have a suffix that multiplies it. -/
def count? (s : String) : Option Nat :=
  let digits := s.toList.takeWhile Char.isDigit
  if digits.isEmpty then none
  else
    (multiple? (String.ofList (s.toList.drop digits.length))).map fun k =>
      digits.foldl (fun n c => n * 10 + (c.toNat - '0'.toNat)) 0 * k

/-- A change of the tree of files; if it fails, the program complains and the status says so. -/
def changing (what : String) (f : Files.Tree → Except Failure Files.Tree) : Doing Bool := do
  match (← get).change f with
  | .ok s =>
    set s
    pure true
  | .error e =>
    blame (what ++ ": " ++ e.words)
    pure false

/-- A path of a program as the tree of files knows it. -/
def plainPath (path : String) : String := Text.Bytewise.toText path

end TestFleet.Shell.Program
