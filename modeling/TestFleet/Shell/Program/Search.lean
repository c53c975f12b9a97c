import TestFleet.Shell.Program.Content
import TestFleet.Shell.Program.Expression
/-!
# Programs that look for patterns

`grep` selects the lines of files in which an expression has a match. What it shows of them is
settled by its options.
-/
namespace TestFleet.Shell.Program

open Files (Octets Failure Place Node)

/-- Whether a match stands alone as a word. -/
def Expression.Subject.isAlone (s : Expression.Subject) (start finish : Nat) : Bool :=
  !s.wordBefore start && !s.wordAt finish

/-- What is looked for in lines. -/
structure Quest where
  patterns : List Expression
  folded : Bool
  words : Bool
  lines : Bool

namespace Quest

/-- The longest match of a quest that starts at an index. -/
def matchAt? (q : Quest) (s : Expression.Subject) (i : Nat) : Option (Nat × Nat) :=
  let ends := q.patterns.flatMap fun e => (e.reaches s ⟨i, []⟩).map (·.at_)
  let fit := ends.filter fun n =>
    (!q.lines || i == 0 && n == s.chars.size) && (!q.words || s.isAlone i n)
  if fit.isEmpty then none else some (i, fit.foldl max 0)

/-- The first match of a quest at an index or after it. -/
def find? (q : Quest) (s : Expression.Subject) (from_ : Nat) : Option (Nat × Nat) :=
  (List.range (s.chars.size + 1 - from_)).findSome? fun k => q.matchAt? s (from_ + k)

/-- The matches in a line that hold something. -/
def findAll (q : Quest) (s : Expression.Subject) : Nat → Nat → List (Nat × Nat)
  | 0, _ => []
  | fuel + 1, i =>
    match q.find? s i with
    | none => []
    | some (a, b) =>
      if a == b then if a < s.chars.size then findAll q s fuel (a + 1) else []
      else (a, b) :: findAll q s fuel b

/-- A line as a subject. -/
def subject (q : Quest) (line : List Char) : Expression.Subject := ⟨line.toArray, q.folded, true⟩

/-- Whether a line has a match. -/
def holds (q : Quest) (line : List Char) : Bool := (q.find? (q.subject line) 0).isSome

end Quest

/-- How `grep` is called. -/
def grepUsage : String :=
  "Usage: grep [OPTION]... PATTERNS [FILE]...\nTry 'grep --help' for more information.\n"

/-- The options of `grep`, with their letters and names. -/
def grepOptions : String :=
  "E/extended-regexp F/fixed-strings G/basic-regexp P/perl-regexp e=/regexp f=/file "
    ++ "i/ignore-case y w/word-regexp x/line-regexp s/no-messages v/invert-match m=/max-count "
    ++ "b/byte-offset n/line-number H/with-filename h/no-filename =/label o/only-matching "
    ++ "q/quiet/silent a/text r/recursive R/dereference-recursive L/files-without-match "
    ++ "l/files-with-matches c/count A=/after-context B=/before-context C=/context ?/color "
    ++ "Z/null I U z"

/-- The files below a directory, by paths that start with its own. -/
def filesBelow (path : String) : Doing (List String) := do
  let s ← get
  match s.find path with
  | .ok (place, .directory) =>
    let below := s.tree.nodes.filterMap fun (p, n) =>
      match n with
      | .file _ =>
        if Files.Tree.isWithin place p && place.length < p.length then
          some (Files.join path (Text.Bytewise.ofText ("/".intercalate (p.drop place.length))))
        else none
      | _ => none
    pure (Ascending.ofList Ascending.textBefore below)
  | _ => pure [path]

/-- A number that an option of `grep` was given. -/
def contextNumber (g : Given) (key : String) : Doing (Option Nat) := do
  match g.value? key with
  | none => pure none
  | some v =>
    match v.toNat? with
    | some n => pure (some n)
    | none => fail 2 (v ++ ": invalid context length argument")

/-- The patterns that `grep` is given, and the files. -/
def grepPatterns (g : Given) : Doing (List (List Char) × List String) := do
  let mut texts : List String := []
  let mut isGiven := false
  for (key, value) in g.options do
    if key == "e" then
      texts := texts ++ Text.splitOnChar '\n' value
      isGiven := true
    if key == "f" then
      isGiven := true
      match ← contentOf true value with
      | .ok cs => texts := texts ++ (linesOf cs).1.map String.ofList
      | .error why => fail 2 (value ++ ": " ++ why)
  if isGiven then pure (texts.map String.toList, g.operands)
  else
    match g.operands with
    | [] =>
      say 2 grepUsage
      throw (.exit 2)
    | p :: rest => pure ((Text.splitOnChar '\n' p).map String.toList, rest)

/-- The expression of a pattern. -/
def grepExpression (kind : String) (cs : List Char) : Doing Expression := do
  if kind == "F" then pure (Expression.plain cs)
  else
    match Expression.ofText (kind == "E" || kind == "P") cs with
    | .ok (e, _) => do
      if kind == "E" then
        for r in Expression.idleRepetitions (cs.length + 1) true cs do
          blame ("warning: " ++ r ++ " at start of expression")
      pure e
    | .error f => fail 2 f.message

/-- Writes the lines of files in which a pattern has a match. -/
def grepAs (usual : String) (args : List String) : Doing Nat := do
  let steps := (args.map (·.length)).foldl (· + ·) args.length + 1
  let g ←
    match givenFrom (knownOf grepOptions) true steps args with
    | .ok g => pure g
    | .error why => do
      blame why
      say 2 grepUsage
      throw (.exit 2)
  let (texts, files) ← grepPatterns g
  let kind := (g.last? ["E", "F", "G", "P"]).getD usual
  let mut patterns : List Expression := []
  for t in texts do patterns := patterns ++ [← grepExpression kind t]
  let quest : Quest := ⟨patterns, g.has "i" || g.has "y", g.has "w", g.has "x"⟩
  let limit ←
    match g.value? "m" with
    | none => pure none
    | some v =>
      match v.toNat? with
      | some n => pure (some n)
      | none => fail 2 "invalid max count"
  let around ← contextNumber g "C"
  let after := (← contextNumber g "A").getD (around.getD 0)
  let before := (← contextNumber g "B").getD (around.getD 0)
  let recursive := g.has "r" || g.has "R"
  let mut paths : List String := []
  for f in (if files.isEmpty then [if recursive then "." else "-"] else files) do
    paths := paths ++ (← if recursive && f != "-" then filesBelow f else pure [f])
  if files.isEmpty && recursive then
    paths := paths.map fun p => if p.startsWith "./" then (p.drop 2).toString else p
  let named_ : Bool :=
    match g.last? ["H", "h"] with
    | some "H" => true
    | some _ => false
    | none => 1 < files.length || recursive
  let title (p : String) : String :=
    if p == "-" then (g.value? "label").getD "(standard input)" else p
  let mut found := false
  let mut failed := false
  for path in paths do
    match ← contentOf true path with
    | .error why =>
      if !g.has "s" then blame (title path ++ ": " ++ why)
      failed := true
    | .ok cs =>
      let lines := (linesOf cs).1
      let starts := (lines.foldl (fun (ns, n) l => (n :: ns, n + l.length + 1))
        (([] : List Nat), 0)).1.reverse
      let all := (lines.zip starts).zipIdx.map fun ((l, o), i) => (i, o, l)
      let selected := all.filter fun (_, _, l) => quest.holds l != g.has "v"
      let selected := match limit with | some n => selected.take n | none => selected
      if !selected.isEmpty then found := true
      let lead (mark : String) (i o : Nat) : String :=
        (if named_ then title path ++ mark else "")
          ++ (if g.has "n" then toString (i + 1) ++ mark else "")
          ++ (if g.has "b" then toString o ++ mark else "")
      if g.has "q" then
        if found then return 0
      else if g.has "l" then
        if !selected.isEmpty then say 1 (title path ++ "\n")
      else if g.has "L" then
        if selected.isEmpty then say 1 (title path ++ "\n")
      else if g.has "c" then
        say 1 ((if named_ then title path ++ ":" else "") ++ toString selected.length ++ "\n")
      else if cs.any (·.toNat == 0) && !g.has "a" then
        if !selected.isEmpty then blame (title path ++ ": binary file matches")
      else if g.has "o" then
        if !g.has "v" then
          for (i, o, l) in selected do
            for (a, b) in quest.findAll (quest.subject l) (l.length + 2) 0 do
              say 1 (lead ":" i (o + a) ++ String.ofList ((l.take b).drop a) ++ "\n")
      else
        let indexes := selected.map (·.1)
        let near (i : Nat) : Bool :=
          indexes.any fun k => i ≤ k + after && k ≤ i + before
        let mut last : Option Nat := none
        for (i, o, l) in all do
          if near i then
            if after + before != 0 && (last.map fun k => decide (k + 1 < i)).getD false then
              say 1 "--\n"
            let mark := if indexes.contains i then ":" else "-"
            say 1 (lead mark i o ++ String.ofList l ++ "\n")
            last := some i
  pure (if failed then 2 else if found then 0 else 1)

/-- Writes the lines of files in which a basic expression has a match. -/
def grep (args : List String) : Doing Nat := grepAs "G" args

end TestFleet.Shell.Program
