import TestFleet.Shell.Program.Entries
/-!
# Programs that tell of files

Directories are listed in the order of the octets of their names; files are told of by formats; and
paths are taken apart.
-/
namespace TestFleet.Shell.Program

open Files (Octets Failure Place Node Tree)

/-! ## Listing -/

/-- One entry of a list: its name as it is shown, its place and what it is. -/
structure Entry where
  name : String
  place : Place
  node : Node

/-- The letter for the kind of a node. -/
def kindLetter : Node → Char
  | .directory => 'd'
  | .file _ => '-'
  | .sink => 'c'
  | .link _ => 'l'

/-- The size of a node. -/
def nodeSize : Node → Nat
  | .directory => 4096
  | .file content => content.length
  | .sink => 0
  | .link t => t.utf8ByteSize

/-- How many names a node has. A directory has one more in itself and one in each directory in
it. -/
def nameCount (s : Session) (e : Entry) : Nat :=
  match e.node with
  | .directory =>
    2 + (s.tree.nodes.filter fun (p, n) => n == .directory && Tree.isChild e.place p).length
  | _ => (s.tree.placesOf e.place).length

/-- The room that a node takes on the disk, in blocks of 1024 octets. -/
def blocksOf (e : Entry) : Nat :=
  match e.node with
  | .directory => 4
  | .file content => (content.length + 4095) / 4096 * 4
  | _ => 0

/-- The widths of the columns of numbers: those of names, and those of octets. -/
def columns (s : Session) (es : List Entry) : Nat × Nat :=
  let width (f : Entry → Nat) : Nat := (es.map fun e => (toString (f e)).length).foldl max 1
  (width (nameCount s), width fun e => nodeSize e.node)

/-- An entry as a list shows it. -/
def Entry.line (g : Given) (s : Session) (widths : Nat × Nat) (e : Entry) : String :=
  let traits := s.tree.traitsAt e.place
  let mark : String :=
    match e.node with
    | .directory => if g.has "F" || g.has "p" then "/" else ""
    | .link _ => if g.has "F" && !g.has "l" then "@" else ""
    | .file _ => if g.has "F" && traits.mode &&& 0o111 != 0 then "*" else ""
    | .sink => ""
  if g.has "l" then
    let date := timeText traits.changed
      (if s.clock - traits.changed < 183 * day then "%b %e %H:%M" else "%b %e  %Y")
    let owner := ((s.var? "HOME").map lastName).getD "user"
    let target : String :=
      match e.node with
      | .link t => " -> " ++ Text.Bytewise.ofText t
      | _ => ""
    String.ofList [kindLetter e.node] ++ Mode.text traits.mode ++ " "
      ++ padLeft widths.1 (toString (nameCount s e)) ++ " " ++ owner ++ " " ++ owner ++ " "
      ++ padLeft widths.2 (toString (nodeSize e.node)) ++ " " ++ date ++ " " ++ e.name ++ mark
      ++ target
  else e.name ++ mark

/-- Entries in the order that the options ask for. -/
def sortedEntries (g : Given) (s : Session) (es : List Entry) : List Entry :=
  let byName := es.mergeSort fun a b => !decide (b.name < a.name)
  let sorted :=
    if g.has "t" then
      byName.mergeSort fun a b =>
        (s.tree.traitsAt b.place).changed ≤ (s.tree.traitsAt a.place).changed
    else if g.has "S" then byName.mergeSort fun a b => nodeSize b.node ≤ nodeSize a.node
    else byName
  if g.has "r" then sorted.reverse else sorted

/-- The lines of a list. -/
def entryLines (g : Given) (s : Session) (es : List Entry) : String :=
  let lines := (sortedEntries g s es).map (Entry.line g s (columns s es))
  if g.has "m" then (if lines.isEmpty then "" else ", ".intercalate lines ++ "\n")
  else String.join (lines.map (· ++ "\n"))

/-- What is in a directory, for a list of it. -/
def entriesIn (g : Given) (s : Session) (place : Place) : List Entry :=
  let names := (s.tree.list place).filter fun n =>
    !n.startsWith "." || g.has "a" || g.has "A"
  let own := names.filterMap fun n =>
    (s.tree.node? (place ++ [n])).map fun node =>
      (⟨Text.Bytewise.ofText n, place ++ [n], node⟩ : Entry)
  if g.has "a" && (s.tree.node? place).isSome then
    ⟨".", place, .directory⟩ :: ⟨"..", place.dropLast, .directory⟩ :: own
  else own

/-- Lists directories, and those in them if asked for. -/
def listDirectories (g : Given) : Nat → Bool → Bool → List (String × Place) → Doing Bool
  | 0, _, _, _ => pure true
  | _ + 1, _, _, [] => pure true
  | fuel + 1, first, titled, (path, place) :: rest => do
    let s ← get
    if !s.tree.permits .read place then
      let _ ← troubled ("cannot open directory " ++ named path ++ ": " ++ Failure.permission.words)
      let _ ← listDirectories g fuel first titled rest
      pure false
    else
      let es := entriesIn g s place
      if titled then say 1 ((if first then "" else "\n") ++ path ++ ":\n")
      if g.has "l" then
        say 1 ("total " ++ toString ((es.map blocksOf).foldl (· + ·) 0) ++ "\n")
      say 1 (entryLines g s es)
      let below := if !g.has "R" then [] else
        (sortedEntries g s es).filterMap fun e =>
          if e.node == .directory && e.name != "." && e.name != ".." then
            some (Files.join path e.name, e.place)
          else none
      listDirectories g fuel false titled (below ++ rest)

/-- Lists files and what is in directories. -/
def ls (args : List String) : Doing Nat := do
  let g ← given 2 true ("a/all A/almost-all b B c C d/directory f F?/classify g G h "
    ++ "/human-readable H i/inode k l L/dereference m n N o p q Q r/reverse R/recursive s S "
    ++ "t T= u U v w= x X 1 Z ?/color /full-time") args
  let mut failed := false
  let mut files : List Entry := []
  let mut directories : List (String × Place) := []
  for path in (if g.operands.isEmpty then ["."] else g.operands) do
    let followed := (← get).find path
    let here ← nodeAt path
    let found := if g.has "l" || g.has "F" || g.has "d" then here
      else match followed with | .ok r => .ok r | .error _ => here
    match found with
    | .ok (place, .directory) =>
      if g.has "d" then files := files ++ [⟨path, place, .directory⟩]
      else directories := directories ++ [(path, place)]
    | .ok (place, node) => files := files ++ [⟨path, place, node⟩]
    | .error why =>
      blame ("cannot access " ++ named path ++ ": " ++ why.words)
      failed := true
  let s ← get
  say 1 (entryLines g s files)
  let titled := g.has "R" || 1 < g.operands.length
  let sorted := directories.mergeSort fun a b => !decide (b.1 < a.1)
  let steps := s.tree.nodes.length + sorted.length + 1
  let well ← listDirectories g steps files.isEmpty titled
    (if g.has "r" then sorted.reverse else sorted)
  pure (if failed || !well then 2 else 0)

/-- What a format tells of a node. -/
def describedBy (s : Session) (path : String) (place : Place) (node : Node) : List Char → String
  | [] => ""
  | '%' :: k :: rest =>
    let traits := s.tree.traitsAt place
    let octal := String.ofList (Nat.toDigits 8 traits.mode)
    let form : String :=
      match k with
      | 'a' => octal
      | 'A' => String.ofList [kindLetter node] ++ Mode.text traits.mode
      | 's' => toString (nodeSize node)
      | 'n' => path
      | 'N' =>
        match node with
        | .link t => named path ++ " -> " ++ named (Text.Bytewise.ofText t)
        | _ => named path
      | 'F' =>
        match node with
        | .directory => "directory"
        | .file [] => "regular empty file"
        | .file _ => "regular file"
        | .sink => "character special file"
        | .link _ => "symbolic link"
      | 'Y' | 'X' | 'Z' => toString (traits.changed.fdiv second)
      | 'y' | 'x' | 'z' => timeText traits.changed "%Y-%m-%d %H:%M:%S.%N %z"
      | 'h' => toString (nameCount s ⟨path, place, node⟩)
      | '%' => "%"
      | k => String.ofList ['%', k]
    form ++ describedBy s path place node rest
  | c :: rest => String.singleton c ++ describedBy s path place node rest

/-- Tells of files by a format. -/
def stat (args : List String) : Doing Nat := do
  let g ← given 1 true "L/dereference f/file-system c=/format =/printf t/terse" args
  if g.operands.isEmpty then misused 1 "missing operand"
  eachOperand g.operands fun path => do
    let found ← if g.has "L" then pure ((← get).find path) else nodeAt path
    match found with
    | .error why => troubled ("cannot statx " ++ named path ++ ": " ++ why.words)
    | .ok (place, node) =>
      let s ← get
      match g.value? "c", g.value? "printf" with
      | some f, _ => say 1 (describedBy s path place node f.toList ++ "\n")
      | none, some f =>
        say 1 (describedBy s path place node (f.replace "\\n" "\n").toList)
      | none, none => say 1 ("  File: " ++ path ++ "\n")
      pure true

/-! ## Paths -/

/-- A place as a path from the root. -/
def pathOf (place : Place) : String :=
  "/" ++ Text.Bytewise.ofText ("/".intercalate place)

/-- Where links point, or the places that paths lead to. -/
def readlink (args : List String) : Doing Nat := do
  let g ← given 1 true ("f/canonicalize e/canonicalize-existing m/canonicalize-missing "
    ++ "n/no-newline q/quiet s/silent v/verbose z/zero") args
  if g.operands.isEmpty then misused 1 "missing operand"
  eachOperand g.operands fun path => do
    let s ← get
    let found : Option String :=
      if g.has "f" || g.has "m" then (s.tree.resolve (plainPath path)).toOption.map pathOf
      else if g.has "e" then (s.find path).toOption.map fun r => pathOf r.1
      else
        match s.tree.findHere (plainPath path) with
        | .ok (_, .link t) => some (Text.Bytewise.ofText t)
        | _ => none
    match found with
    | some p =>
      say 1 (p ++ (if g.has "n" && g.operands.length == 1 then "" else "\n"))
      pure true
    | none => pure false

/-- The places that paths lead to. -/
def realpath (args : List String) : Doing Nat := do
  let g ← given 1 true ("e/canonicalize-existing m/canonicalize-missing q/quiet s/no-symlinks "
    ++ "z/zero L P") args
  if g.operands.isEmpty then misused 1 "missing operand"
  eachOperand g.operands fun path => do
    let s ← get
    let found := if g.has "e" then (s.find path).map (·.1) else s.tree.resolve (plainPath path)
    match found with
    | .ok place =>
      say 1 (pathOf place ++ "\n")
      pure true
    | .error why => troubled (path ++ ": " ++ why.words)

/-- The last names in paths. -/
def basename (args : List String) : Doing Nat := do
  let g ← given 1 false "a/multiple s=/suffix z/zero" args
  let several := g.has "a" || g.has "s"
  let (paths, ending) ←
    match g.operands, several with
    | [], _ => misused 1 "missing operand"
    | paths, true => pure (paths, (g.value? "s").getD "")
    | [p], false => pure ([p], "")
    | [p, e], false => pure ([p], e)
    | _ :: _ :: extra :: _, false => misused 1 ("extra operand " ++ named extra)
  for p in paths do
    let name := lastName p
    let cut := if !ending.isEmpty && name != ending && name.endsWith ending then
        (name.dropEnd ending.length).toString
      else name
    say 1 (cut ++ (if g.has "z" then String.singleton (Char.ofNat 0) else "\n"))
  pure 0

/-- Paths without their last names. -/
def dirname (args : List String) : Doing Nat := do
  let g ← given 1 true "z/zero" args
  if g.operands.isEmpty then misused 1 "missing operand"
  for p in g.operands do
    say 1 (directoryOf p ++ (if g.has "z" then String.singleton (Char.ofNat 0) else "\n"))
  pure 0

/-- The letters at the end of a name made up for a file. -/
def madeUp (seed count : Nat) : String :=
  let letters := "abcdefghijklmnopqrstuvwxyzABCDEFGHIJKLMNOPQRSTUVWXYZ0123456789".toList
  String.ofList ((List.range count).map fun i =>
    letters[(seed * 7919 + (i + 1) * (seed + 104729)) % letters.length]?.getD 'a')

/-- Makes a file or a directory with a name that none has. -/
def mktemp (args : List String) : Doing Nat := do
  let g ← given 1 true "d/directory u/dry-run q/quiet p?/tmpdir t =/suffix" args
  let template := g.operands.headD "tmp.XXXXXXXXXX"
  let base := (g.value? "p").getD "/tmp"
  let path := if g.operands.isEmpty || g.has "p" || g.has "t" then
    Files.join (if base.isEmpty then "/tmp" else base) template else template
  let count := (path.toList.reverse.takeWhile (· == 'X')).length
  if count < 3 then fail 1 ("too few X's in template " ++ named template)
  let s ← get
  set { s with fresh := s.fresh + 1 }
  let name := (path.dropEnd count).toString ++ madeUp s.fresh count
  let made : Except Failure Session :=
    if g.has "u" then .ok s
    else if g.has "d" then s.change (withDirectory 0o077 s.clock (plainPath name))
    else s.change (editedAt 0o077 s.clock (plainPath name) id)
  match made with
  | .ok t =>
    set { t with fresh := s.fresh + 1 }
    say 1 (name ++ "\n")
    pure 0
  | .error why =>
    fail 1 ("failed to create " ++ (if g.has "d" then "directory" else "file")
      ++ " via template " ++ named template ++ ": " ++ why.words)

/-- Shows the time, or another one. -/
def date (args : List String) : Doing Nat := do
  let g ← given 1 true ("d=/date u/utc/universal I?/iso-8601 R/rfc-email r=/reference "
    ++ "f=/file s=/set =/rfc-3339") args
  let now := (← get).clock
  if let _ :: extra :: _ := g.operands then misused 1 ("extra operand " ++ named extra)
  let time ←
    match g.value? "d", g.value? "r" with
    | some d, _ =>
      match timeOf? now d with
      | some t => pure t
      | none => fail 1 ("invalid date " ++ named d)
    | none, some r =>
      match (← get).find r with
      | .ok (place, _) => pure ((← get).tree.traitsAt place).changed
      | .error why => fail 1 (r ++ ": " ++ why.words)
    | none, none => pure now
  let format ←
    match g.operands.head? with
    | some f =>
      if f.startsWith "+" then pure (f.drop 1).toString else fail 1 ("invalid date " ++ named f)
    | none =>
      match g.value? "I" with
      | some "seconds" | some "s" => pure "%Y-%m-%dT%H:%M:%S+00:00"
      | some "minutes" => pure "%Y-%m-%dT%H:%M+00:00"
      | some _ => pure "%F"
      | none => pure (if g.has "R" then "%a, %d %b %Y %T %z" else "%a %b %e %H:%M:%S UTC %Y")
  say 1 (timeText time format ++ "\n")
  pure 0

end TestFleet.Shell.Program
