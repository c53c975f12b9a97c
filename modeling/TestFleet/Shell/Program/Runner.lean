import TestFleet.Shell.Glob
import TestFleet.Shell.Program.Listing
import TestFleet.Shell.Program.Reckoning
/-!
# Programs that run others

What such a program was asked to do is read into a plan here; the shell's evaluation carries the
plan out, as only it can run commands.
-/
namespace TestFleet.Shell.Program

open Files (Octets Failure Place Node Tree)

/-! ## A command with another environment -/

/-- What `env` was asked for. -/
structure Surroundings where
  /-- Whether no variable of before is kept. -/
  empty : Bool
  dropped : List String
  given : List (String × String)
  command : List String

/-- Variables with some more; one that is there already gets the new value in its place. -/
def Surroundings.applied (p : Surroundings) (former : List (String × String)) :
    List (String × String) :=
  let kept := if p.empty then [] else former.filter fun (n, _) => !p.dropped.contains n
  p.given.foldl (fun vars (n, v) =>
    if (vars.lookup n).isSome then vars.map fun (m, w) => (m, if m == n then v else w)
    else vars ++ [(n, v)]) kept

/-- The plan of `env`. -/
def surroundings (args : List String) : Doing Surroundings := do
  let g ← given 125 false "i/ignore-environment u=/unset 0/null C=/chdir S=/split-string v" args
  let operands := if g.operands.head? == some "-" then g.operands.drop 1 else g.operands
  let isSetting (a : String) : Bool := a.toList.contains '='
  let settings := operands.takeWhile isSetting
  let cut (a : String) : String × String :=
    let name := a.toList.takeWhile (· != '=')
    (String.ofList name, String.ofList (a.toList.drop (name.length + 1)))
  let front := match g.value? "S" with
    | some text => (Text.splitOnChar ' ' text).filter (!·.isEmpty)
    | none => []
  pure ⟨g.has "i" || g.operands.head? == some "-",
    (g.options.filter (·.1 == "u")).map (·.2), settings.map cut,
    front ++ operands.drop settings.length⟩

/-! ## A command that is stopped -/

/-- What `timeout` was asked for. -/
structure Deadline where
  signal : Nat
  nanos : Nat
  command : List String

/-- The plan of `timeout`, with the number of a signal found by its name. -/
def deadline (signal? : String → Option Nat) (args : List String) : Doing Deadline := do
  let g ← given 125 false "k=/kill-after s=/signal v/verbose /foreground /preserve-status" args
  let signal ←
    match g.value? "s" with
    | none => pure 15
    | some s =>
      match signal? s with
      | some n => pure n
      | none => misused 125 (named s ++ ": invalid signal")
  match g.operands with
  | time :: command@(_ :: _) =>
    match nanos? time with
    | some n => pure ⟨signal, n, command⟩
    | none => misused 125 ("invalid time interval " ++ named time)
  | _ => do
    say 2 ("Try '" ++ (← calledAs) ++ " --help' for more information.\n")
    throw (.exit 125)

/-! ## Commands made of lines -/

/-- What `xargs` was asked for. -/
structure Batches where
  command : List String
  /-- How many words each command takes. -/
  count : Option Nat
  /-- How many lines each command takes. -/
  lines : Option Nat
  /-- What stands for a line in the command, if each line makes one. -/
  replaced : Option String
  /-- What ends a word, if not white space. -/
  delimiter : Option Char
  skipsEmpty : Bool
  shows : Bool

/-- The plan of `xargs`. -/
def batches (args : List String) : Doing Batches := do
  let g ← given 1 false ("n=/max-args I= L= r/no-run-if-empty 0/null d=/delimiter t/verbose "
    ++ "p/interactive P=/max-procs s= x") args
  let count ←
    match g.value? "n" with
    | none => pure none
    | some v =>
      match v.toNat? with
      | some n => pure (some n)
      | none => misused 1 ("invalid number " ++ "\"" ++ v ++ "\" for -n option")
  let lines := (g.value? "L").bind (·.toNat?)
  let delimiter : Option Char :=
    if g.has "0" then some (Char.ofNat 0)
    else (g.value? "d").map fun d => if d == "\\n" then '\n' else d.toList.headD '\n'
  pure ⟨if g.operands.isEmpty then ["echo"] else g.operands, count, lines, g.value? "I", delimiter,
    g.has "r", g.has "t"⟩

/-- Words between white space; quotes and backslashes keep white space in them. -/
def quotedWords (cs : List Char) : List String :=
  let rec go : List Char → Option Char → Option (List Char) → List String
    | [], _, word => match word with | some w => [String.ofList w.reverse] | none => []
    | '\\' :: c :: rest, none, word => go rest none (some (c :: word.getD []))
    | c :: rest, none, word =>
      if c == '\'' || c == '"' then go rest (some c) (some (word.getD []))
      else if OctetClass.space.holds c then
        match word with
        | some w => String.ofList w.reverse :: go rest none none
        | none => go rest none none
      else go rest none (some (c :: word.getD []))
    | c :: rest, some q, word =>
      if c == q then go rest none word else go rest (some q) (some (c :: word.getD []))
  go cs none none

/-- Lists of so many at most. -/
def chunks {α : Type} (n : Nat) : Nat → List α → List (List α)
  | 0, _ => []
  | fuel + 1, xs => if xs.isEmpty then [] else xs.take n :: chunks n fuel (xs.drop n)

/-- A text with each copy of a part of it changed for another. -/
def substituting (part other s : String) : String := s.replace part other

/-- The commands that a text makes. -/
def Batches.calls (b : Batches) (cs : List Char) : List (List String) := Id.run do
  let pieces (d : Char) : List String :=
    let all := (Text.pieces (· == d) cs).map String.ofList
    if all.getLast? == some "" then all.dropLast else all
  match b.replaced with
  | some mark =>
    let lines := (pieces (b.delimiter.getD '\n')).filterMap fun l =>
      let l := String.ofList (l.toList.dropWhile OctetClass.blank.holds)
      if l.isEmpty then none else some l
    lines.map fun l => b.command.map (substituting mark l)
  | none =>
    if let some n := b.lines then
      let lines := (pieces '\n').filter fun l => !(quotedWords l.toList).isEmpty
      return (chunks (max n 1) (lines.length + 1) lines).map fun ls =>
        b.command ++ ls.flatMap fun l => quotedWords l.toList
    let words := match b.delimiter with | some d => pieces d | none => quotedWords cs
    if words.isEmpty then if b.skipsEmpty then [] else [b.command]
    else
      match b.count with
      | some n => (chunks (max n 1) (words.length + 1) words).map (b.command ++ ·)
      | none => [b.command ++ words]

/-! ## Files found -/

/-- A file that a search comes by. -/
structure Visit where
  path : String
  place : Place
  node : Node
  depth : Nat
  deriving Inhabited

/-- What is asked of files that are found, or done with them. -/
inductive FindTest where
  | both (first second : FindTest)
  | either (first second : FindTest)
  | not (body : FindTest)
  | holds (p : Session → Visit → Bool)
  | act (f : Visit → Doing Bool)
  | run (command : List String)

instance : Inhabited FindTest := ⟨.holds fun _ _ => true⟩

/-- What `find` was asked for. -/
structure Hunt where
  roots : List String
  least : Nat
  most : Option Nat
  /-- Whether what is in a directory comes before the directory. -/
  deep : Bool
  test : FindTest

/-- A pattern for names. -/
def namePattern (s : String) : List GlobPart := nameGlob s

/-- Whether a node is of the kind that a letter names. -/
def isOfKind (letter : String) (n : Node) : Bool :=
  match letter, n with
  | "f", .file _ | "d", .directory | "l", .link _ | "c", .sink => true
  | _, _ => false

/-- Writes the path of a file that was found. -/
def showVisit (ending : String) (v : Visit) : Doing Bool := do
  say 1 (v.path ++ ending)
  pure true

/-- Takes away a file that was found. -/
def deleteVisit (v : Visit) : Doing Bool := do
  let s ← get
  match s.change fun t => do
      if v.node == .directory && t.hasBelow v.place then throw .notEmpty
      t.allowChange v.place
      pure (t.erase v.place) with
  | .ok t =>
    set t
    pure true
  | .error why =>
    blame ("cannot delete " ++ named v.path ++ ": " ++ why.words)
    pure false

/-- What a search does at last, if it does nothing else: it shows what it has found. -/
def shown : FindTest := .act (showVisit "\n")

/-- The size of a file in units, a started one counted. -/
def sizeTest? (arg : String) : Option (Nat → Bool) :=
  let (sign, rest) : Char × List Char :=
    match arg.toList with
    | '+' :: rest => ('+', rest)
    | '-' :: rest => ('-', rest)
    | rest => ('=', rest)
  let digits := rest.takeWhile Char.isDigit
  let unit : Option Nat :=
    match rest.drop digits.length with
    | [] | ['b'] => some 512
    | ['c'] => some 1
    | ['k'] => some 1024
    | ['M'] => some (1024 * 1024)
    | _ => none
  if digits.isEmpty then none
  else
    unit.map fun u size =>
      let n := (size + u - 1) / u
      let wanted := digitsValue digits
      if sign == '+' then wanted < n else if sign == '-' then n < wanted else n == wanted

/-- Whether a word starts the expression of a search. -/
def startsExpression (w : String) : Bool :=
  w.startsWith "-" && 1 < w.length || w == "(" || w == "!"

mutual

/-- Tests with `-o` between them. -/
def findEither : Nat → List String → Except String (FindTest × List String)
  | 0, _ => .error "too many arguments"
  | fuel + 1, args => do
    let (a, rest) ← findBoth fuel args
    match rest with
    | "-o" :: more | "-or" :: more => do
      let (b, rest) ← findEither fuel more
      .ok (.either a b, rest)
    | _ => .ok (a, rest)

/-- Tests in a row. -/
def findBoth : Nat → List String → Except String (FindTest × List String)
  | 0, _ => .error "too many arguments"
  | fuel + 1, args => do
    let (a, rest) ← findOne fuel args
    match rest with
    | [] | ")" :: _ | "-o" :: _ | "-or" :: _ => .ok (a, rest)
    | "-a" :: more | "-and" :: more => do
      let (b, rest) ← findBoth fuel more
      .ok (.both a b, rest)
    | _ => do
      let (b, rest) ← findBoth fuel rest
      .ok (.both a b, rest)

/-- One test. -/
def findOne : Nat → List String → Except String (FindTest × List String)
  | 0, _ => .error "too many arguments"
  | fuel + 1, args =>
    let always (rest : List String) : Except String (FindTest × List String) :=
      .ok (.holds fun _ _ => true, rest)
    match args with
    | [] => always []
    | "!" :: rest | "-not" :: rest => do
      let (a, rest) ← findOne fuel rest
      .ok (.not a, rest)
    | "(" :: rest => do
      let (a, rest) ← findEither fuel rest
      match rest with
      | ")" :: rest => .ok (a, rest)
      | _ =>
          .error ("invalid expression; I was expecting to find a ')' somewhere but did not see "
            ++ "one.")
    | "-print" :: rest => .ok (shown, rest)
    | "-print0" :: rest => .ok (.act (showVisit (String.singleton (Char.ofNat 0))), rest)
    | "-delete" :: rest => .ok (.act deleteVisit, rest)
    | "-true" :: rest | "-depth" :: rest => always rest
    | "-false" :: rest => .ok (.holds fun _ _ => false, rest)
    | "-empty" :: rest =>
      .ok (.holds fun s v =>
        match v.node with
        | .directory => !s.tree.hasBelow v.place
        | .file content => content.isEmpty
        | _ => false, rest)
    | "-exec" :: rest =>
      let command := rest.takeWhile fun w => w != ";" && w != "+"
      match rest.drop command.length with
      | _ :: rest => .ok (.run command, rest)
      | [] => .error "missing argument to '-exec'"
    | name :: value :: rest =>
      let test (p : Session → Visit → Bool) : Except String (FindTest × List String) :=
        .ok (.holds p, rest)
      match name with
      | "-name" => test fun _ v => globMatches (namePattern value) (lastName v.path).toList
      | "-iname" =>
        test fun _ v => globMatches (namePattern value.toLower) (lastName v.path).toLower.toList
      | "-path" | "-wholename" => test fun _ v => globMatches (namePattern value) v.path.toList
      | "-type" => test fun _ v => (Text.splitOnChar ',' value).any fun k => isOfKind k v.node
      | "-maxdepth" | "-mindepth" => always rest
      | "-newer" =>
        test fun s v =>
          match s.find value with
          | .ok (place, _) => (s.tree.traitsAt place).changed < (s.tree.traitsAt v.place).changed
          | .error _ => false
      | "-perm" =>
        match Mode.given? false 0 value 0 with
        | some m => test fun s v => (s.tree.traitsAt v.place).mode == m
        | none => .error ("invalid mode " ++ named value)
      | "-size" =>
        match sizeTest? value with
        | some p => test fun _ v => p (nodeSize v.node)
        | none => .error ("invalid argument " ++ named value ++ " to -size")
      | _ => .error ("unknown predicate `" ++ name ++ "'")
    | [name] =>
      if ["-name", "-iname", "-path", "-type", "-newer", "-perm", "-size"].contains name then
        .error ("missing argument to " ++ named name)
      else .error ("unknown predicate `" ++ name ++ "'")

end

/-- The number behind a word of a search. -/
def numberBehind (word : String) (args : List String) : Option Nat :=
  match args.dropWhile (· != word) with
  | _ :: n :: _ => n.toNat?
  | _ => none

/-- Whether a test shows files or does something with them. -/
def FindTest.acts : FindTest → Bool
  | .both a b | .either a b => a.acts || b.acts
  | .not a => a.acts
  | .holds _ => false
  | .act _ | .run _ => true

/-- The plan of `find`. -/
def huntOf (args : List String) : Except String Hunt := do
  let roots := args.takeWhile (!startsExpression ·)
  let rest := args.drop roots.length
  let (test, left) ← findEither (2 * rest.length + 4) rest
  if let w :: _ := left then
    throw (if w == ")" then "you have too many ')'" else "unknown predicate `" ++ w ++ "'")
  pure ⟨if roots.isEmpty then ["."] else roots, (numberBehind "-mindepth" rest).getD 0,
    numberBehind "-maxdepth" rest, rest.contains "-depth" || rest.contains "-delete",
    if test.acts then test else .both test shown⟩

/-- The files that a search comes by below a path, in the order of their names. -/
def Hunt.visits (h : Hunt) (s : Session) (path : String) (place : Place) : List Visit :=
  let all := s.tree.nodes.filterMap fun (p, n) =>
    if Tree.isWithin place p then
      let below := p.drop place.length
      some (⟨if below.isEmpty then path
        else Files.join path (Text.Bytewise.ofText ("/".intercalate below)), p, n, below.length⟩ :
          Visit)
    else none
  let sorted := all.mergeSort fun a b => !(decide (b.place < a.place))
  let wanted := sorted.filter fun v =>
    h.least ≤ v.depth && (h.most.map fun m => decide (v.depth ≤ m)).getD true
  if h.deep then wanted.reverse else wanted

/-! ## Shells -/

/-- What a shell was called with: options that are on, whether it is to carry out a text, and the
other arguments. -/
structure ShellCall where
  options : List Char
  command : Bool
  /-- Whether the text comes from the standard input even if there are arguments. -/
  input : Bool
  operands : List String

/-- Reads the arguments of a shell, given the letters of its options and those of their names. -/
def shellCall (letters : List Char) (optionOf? : String → Option Char) :
    Nat → List String → Except String ShellCall
  | 0, args => .ok ⟨[], false, false, args⟩
  | fuel + 1, args =>
    let given (on : Bool) (cs : List Char) (rest : List String) : Except String ShellCall := do
      let isKnown (c : Char) : Bool := c == 'c' || c == 'l' || c == 'o' || letters.contains c
      if let some bad := cs.find? (!isKnown ·) then
        throw ("Illegal option -" ++ String.singleton bad)
      let named := cs.contains 'o'
      let extra ←
        match named, rest with
        | true, name :: _ =>
          match optionOf? name with
          | some l => pure [l]
          | none => throw ("Illegal option -o " ++ name)
        | _, _ => pure []
      let c ← shellCall letters optionOf? fuel (if named then rest.drop 1 else rest)
      let own := (cs.filter fun c => c != 'c' && c != 'l' && c != 'o' && c != 's') ++ extra
      .ok { c with
        options := if on then own ++ c.options else c.options
        command := c.command || cs.contains 'c'
        input := c.input || on && cs.contains 's' }
    match args with
    | [] => .ok ⟨[], false, false, []⟩
    | a :: rest =>
      match a.toList with
      | ['-'] | ['-', '-'] => .ok ⟨[], false, false, rest⟩
      | '-' :: cs => given true cs rest
      | '+' :: cs => given false cs rest
      | _ => .ok ⟨[], false, false, args⟩

end TestFleet.Shell.Program
