import TestFleet.Toml.Scalar
/-!
# Reading TOML

A document is a list of statements: key-value lines, table headers and headers of arrays of
tables. `Tree` keeps for each table how it came about, since TOML lets a table be defined only
once: by one header, by dotted keys of one section, or by a value. Nesting is at most 79 deep.
-/
namespace TestFleet.Toml

/-- How a table came about. -/
inductive Origin where
  /-- By a header or an inline value: it is complete. -/
  | defined
  /-- By the header of a table below it: its own header may still come. -/
  | implied
  /-- By a dotted key: further dotted keys may add to it. -/
  | dotted
  deriving DecidableEq, Repr

/-- A document under construction. -/
inductive Tree where
  | value (d : Datum)
  | table (origin : Origin) (entries : List (String × Tree))
  | tables (items : List (List (String × Tree)))
  deriving Inhabited

/-- The entries of a table. -/
abbrev Entries := List (String × Tree)

/-- The levels of nesting a value may have, and the parts a key may have. -/
def nestingLimit : Nat := 79

/-- Characters of a bare key. -/
def isBareKey (c : Char) : Bool := c.isAlphanum || c == '_' || c == '-'

/-- One part of a key. -/
def keyPart? (cs : List Char) : Option (String × List Char) :=
  match cs with
  | '"' :: rest => ofReversed (lineBody '"' true (cs.length + 1) [] rest)
  | '\'' :: rest => ofReversed (lineBody '\'' false (cs.length + 1) [] rest)
  | _ =>
    let part := cs.takeWhile isBareKey
    if part.isEmpty then none else some (String.ofList part, cs.drop part.length)

/-- A key: parts joined by points, blanks around each. -/
def keyParts? : Nat → List Char → Option (List String × List Char)
  | 0, _ => none
  | fuel + 1, cs => do
    let (part, rest) ← keyPart? (skipSpace cs)
    match skipSpace rest with
    | '.' :: rest => do
      let (parts, rest) ← keyParts? fuel rest
      some (part :: parts, rest)
    | rest => some ([part], rest)

/-- A key of at most `nestingLimit` parts: all but the last, and the last. -/
def key? (cs : List Char) : Option ((List String × String) × List Char) := do
  let (parts, rest) ← keyParts? (cs.length + 1) cs
  if nestingLimit < parts.length then none
  else some ((parts.dropLast, parts.getLast?.getD ""), rest)

/-- The rest after a comment, which ends before the line end. -/
def comment? (cs : List Char) : Option (List Char) :=
  match cs with
  | '#' :: rest =>
    let after := rest.dropWhile isPlain
    match after with
    | [] => some []
    | _ => if (newline? after).isSome then some after else none
  | _ => some cs

/-- The rest after blanks, line ends and comments. -/
def skipFiller : Nat → List Char → Option (List Char)
  | 0, cs => some cs
  | fuel + 1, cs => do
    let rest ← comment? (skipSpace cs)
    match newline? rest with
    | some rest => skipFiller fuel rest
    | none => some rest

/-- Replaces or adds the value of a key. -/
def putEntry (name : String) (t : Tree) : Entries → Entries
  | [] => [(name, t)]
  | (n, u) :: rest => if n = name then (n, t) :: rest else (n, u) :: putEntry name t rest

/-- Changes the table that a key-value line adds to, which lies under the leading parts of its
key. Those parts may be new or dotted tables, never complete ones. -/
def editDotted (edit : Bool → Entries → Option Entries) (inDotted : Bool) :
    List String → Entries → Option Entries
  | [], entries => edit inDotted entries
  | name :: path, entries =>
    match entries.lookup name with
    | none => do
      let below ← editDotted edit true path []
      some (putEntry name (.table .dotted below) entries)
    | some (.table .defined _) => none
    | some (.table origin below) => do
      let below ← editDotted edit (origin == .dotted) path below
      some (putEntry name (.table origin below) entries)
    | some (.tables items) =>
      match items.getLast? with
      | some last => do
        let last ← editDotted edit false path last
        some (putEntry name (.tables (items.dropLast ++ [last])) entries)
      | none => none
    | some (.value _) => none

/-- Adds a value under a key; the key must be new, and a dotted key may not add to a table that a
header implied. -/
def addValue (path : List String) (name : String) (t : Tree) (entries : Entries) :
    Option Entries :=
  editDotted
    (fun inDotted below =>
      if !path.isEmpty && !inDotted then none
      else if (below.lookup name).isSome then none
      else some (below ++ [(name, t)]))
    false path entries

mutual

/-- The finished data of a tree. -/
def Tree.datum : Tree → Datum
  | .value d => d
  | .table _ entries => .table (datumEntries entries)
  | .tables items => .list (datumItems items)

/-- The finished data of each entry. -/
def datumEntries : List (String × Tree) → List (String × Datum)
  | [] => []
  | (n, t) :: rest => (n, t.datum) :: datumEntries rest

/-- The finished data of each table. -/
def datumItems : List (List (String × Tree)) → List Datum
  | [] => []
  | entries :: rest => .table (datumEntries entries) :: datumItems rest

end

mutual

/-- A value, with so many levels of nesting left. -/
def value? : Nat → Nat → List Char → Option (Datum × List Char)
  | 0, _, _ => none
  | fuel + 1, depth, cs =>
    match cs with
    | '"' :: _ | '\'' :: _ => (string? cs).map fun (s, rest) => (.text s, rest)
    | 't' :: 'r' :: 'u' :: 'e' :: rest => some (.bool true, rest)
    | 'f' :: 'a' :: 'l' :: 's' :: 'e' :: rest => some (.bool false, rest)
    | '[' :: rest =>
      match depth with
      | 0 => none
      | depth + 1 => (items? fuel depth rest).map fun (ds, r) => (.list ds, r)
    | '\x7b' :: rest =>
      match depth with
      | 0 => none
      | depth + 1 =>
        match skipSpace rest with
        | '\x7d' :: rest => some (.table [], rest)
        | rest => (pairs? fuel depth [] rest).map fun (es, r) => (.table (datumEntries es), r)
    | _ => numeric? cs

/-- The items of an array up to its closing bracket; line ends and comments may stand between. -/
def items? : Nat → Nat → List Char → Option (List Datum × List Char)
  | 0, _, _ => none
  | fuel + 1, depth, cs => do
    match ← skipFiller cs.length cs with
    | ']' :: rest => some ([], rest)
    | cs => do
      let (d, rest) ← value? fuel depth cs
      match ← skipFiller rest.length rest with
      | ',' :: rest => do
        let (ds, rest) ← items? fuel depth rest
        some (d :: ds, rest)
      | ']' :: rest => some ([d], rest)
      | _ => none

/-- The key-value pairs of an inline table up to its closing brace, all on one line. -/
def pairs? : Nat → Nat → Entries → List Char → Option (Entries × List Char)
  | 0, _, _, _ => none
  | fuel + 1, depth, entries, cs => do
    let ((path, name), rest) ← key? cs
    let rest ← char? '=' (skipSpace rest)
    let (d, rest) ← value? fuel depth (skipSpace rest)
    let entries ← addValue path name (.value d) entries
    match skipSpace rest with
    | ',' :: rest => pairs? fuel depth entries rest
    | '\x7d' :: rest => some (entries, rest)
    | _ => none

end

/-- A statement of a document. -/
inductive Statement where
  | pair (path : List String) (name : String) (d : Datum)
  | header (path : List String) (name : String)
  | arrayHeader (path : List String) (name : String)
  deriving Inhabited

/-- The rest after the end of a statement: blanks, a comment, and a line end or the text's end. -/
def statementEnd? (cs : List Char) : Option (List Char) := do
  let rest ← comment? (skipSpace cs)
  match rest with
  | [] => some []
  | _ => newline? rest

/-- One statement with its line end. -/
def statement? (cs : List Char) : Option (Statement × List Char) :=
  match cs with
  | '[' :: '[' :: rest => do
    let ((path, name), rest) ← key? rest
    let rest ← char? ']' rest
    let rest ← char? ']' rest
    (statementEnd? rest).map (.arrayHeader path name, ·)
  | '[' :: rest => do
    let ((path, name), rest) ← key? rest
    let rest ← char? ']' rest
    (statementEnd? rest).map (.header path name, ·)
  | _ => do
    let ((path, name), rest) ← key? cs
    let rest ← char? '=' rest
    let (d, rest) ← value? (2 * rest.length + 2) nestingLimit (skipSpace rest)
    (statementEnd? rest).map (.pair path name d, ·)

/-- The statements of a document. -/
def statements? : Nat → List Char → Option (List Statement)
  | 0, _ => none
  | fuel + 1, cs => do
    let rest ← skipFiller cs.length cs
    match rest with
    | [] => some []
    | _ => do
      let (s, rest) ← statement? rest
      let more ← statements? fuel rest
      some (s :: more)

/-- Changes the entries under the leading parts of a header; parts that are new are implied. -/
def editUnder (edit : Entries → Option Entries) : List String → Entries → Option Entries
  | [], entries => edit entries
  | name :: path, entries =>
    match entries.lookup name with
    | none => do
      let below ← editUnder edit path []
      some (putEntry name (.table .implied below) entries)
    | some (.table origin below) => do
      let below ← editUnder edit path below
      some (putEntry name (.table origin below) entries)
    | some (.tables items) =>
      match items.getLast? with
      | some last => do
        let last ← editUnder edit path last
        some (putEntry name (.tables (items.dropLast ++ [last])) entries)
      | none => none
    | some (.value _) => none

/-- The entries under the leading parts of a header, if they are there. -/
def entriesUnder : List String → Entries → Option Entries
  | [], entries => some entries
  | name :: path, entries =>
    match entries.lookup name with
    | some (.table _ below) => entriesUnder path below
    | some (.tables items) => items.getLast?.bind (entriesUnder path)
    | _ => none

/-- What the key-value lines that follow add to. -/
inductive Section where
  | root
  | table (path : List String) (name : String)
  | element (path : List String) (name : String)

/-- Closes a section: puts its table into the document. -/
def closeSection (s : Section) (table : Entries) (root : Entries) : Option Entries :=
  match s with
  | .root => some table
  | .table path name =>
    editUnder (fun below => some (putEntry name (.table .defined table) below)) path root
  | .element path name =>
    editUnder
      (fun below =>
        match below.lookup name with
        | some (.tables items) => some (putEntry name (.tables (items ++ [table])) below)
        | some _ => none
        | none => some (putEntry name (.tables [table]) below))
      path root

/-- Opens the section of a table: what an implied table of that name holds already is kept. -/
def openTable (path : List String) (name : String) (root : Entries) :
    Option (Entries × Entries) := do
  let root ← editUnder some path root
  let below ← entriesUnder path root
  match below.lookup name with
  | none => some ([], root)
  | some (.table .implied entries) =>
    let root ← editUnder (fun b => some (b.filter (·.1 != name))) path root
    some (entries, root)
  | some _ => none

/-- Opens the section of one more table of an array. -/
def openElement (path : List String) (name : String) (root : Entries) : Option Entries := do
  let root ← editUnder some path root
  let below ← entriesUnder path root
  match below.lookup name with
  | none => editUnder (fun b => some (putEntry name (.tables []) b)) path root
  | some (.tables _) => some root
  | some _ => none

/-- Carries out statements; `table` is the section's table so far. -/
def build (s : Section) (table root : Entries) : List Statement → Option Entries
  | [] => closeSection s table root
  | .pair path name d :: rest => do
    let table ← addValue path name (.value d) table
    build s table root rest
  | .header path name :: rest => do
    let root ← closeSection s table root
    let (table, root) ← openTable path name root
    build (.table path name) table root rest
  | .arrayHeader path name :: rest => do
    let root ← closeSection s table root
    let root ← openElement path name root
    build (.element path name) [] root rest

/-- Reads a document, which may start with a byte order mark. -/
def parseChars? (cs : List Char) : Option Datum := do
  let cs := match cs with
    | c :: rest => if c.toNat = 0xFEFF then rest else cs
    | [] => []
  let statements ← statements? (cs.length + 1) cs
  let entries ← build .root [] [] statements
  some (.table (datumEntries entries))

/-- Reads a document from text. -/
def parse? (s : String) : Option Datum := parseChars? s.toList

end TestFleet.Toml
