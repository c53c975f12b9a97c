import TestFleet.Regex.Escape
/-!
# Bracketed sets of regular expressions

Characters, ranges, classes and further bracketed sets stand side by side for their union; `&&`,
`--` and `~~` combine what stands on their left with what stands on their right, from left to
right. Every set is read with how deep sets stand in one another.
-/
namespace TestFleet.Regex

/-- The classes that may stand between `[:` and `:]`. -/
def posixClasses : List (String × List Unicode.Range) :=
  [("alnum", [⟨48, 57⟩, ⟨65, 90⟩, ⟨97, 122⟩]), ("alpha", [⟨65, 90⟩, ⟨97, 122⟩]),
    ("ascii", [⟨0, 127⟩]), ("blank", [⟨9, 9⟩, ⟨32, 32⟩]), ("cntrl", [⟨0, 31⟩, ⟨127, 127⟩]),
    ("digit", [⟨48, 57⟩]), ("graph", [⟨33, 126⟩]), ("lower", [⟨97, 122⟩]),
    ("print", [⟨32, 126⟩]), ("punct", [⟨33, 47⟩, ⟨58, 64⟩, ⟨91, 96⟩, ⟨123, 126⟩]),
    ("space", [⟨9, 13⟩, ⟨32, 32⟩]), ("upper", [⟨65, 90⟩]),
    ("word", [⟨48, 57⟩, ⟨65, 90⟩, ⟨95, 95⟩, ⟨97, 122⟩]),
    ("xdigit", [⟨48, 57⟩, ⟨65, 70⟩, ⟨97, 102⟩])]

/-- A class of ASCII by its name, after `[:`, if one stands there: whether it is left out, its
characters, and the rest. -/
def posixClass? (cs : List Char) : Option (Bool × List Unicode.Range × List Char) := do
  let (negated, cs) := match cs with
    | '^' :: rest => (true, rest)
    | _ => (false, cs)
  let name := cs.takeWhile (· != ':')
  let rest ← Text.dropLeading? [':', ']'] (cs.drop name.length)
  let set ← posixClasses.lookup (String.ofList name)
  some (negated, set, rest)

/-- An item of a bracketed set. -/
inductive SetItem where
  | char (c : Char)
  | set (s : List Unicode.Range)

/-- One character or class of a bracketed set. -/
def setItem? (flags : Flags) (cs : List Char) : Option (SetItem × List Char) :=
  let char (c : Char) (rest : List Char) : Option (SetItem × List Char) :=
    if !flags.unicode && 0x80 ≤ c.toNat then none else some (.char c, rest)
  match cs with
  | [] => none
  | '\\' :: rest =>
    match escape? flags rest with
    | some (.char c, after) => char c after
    | some (.set s, after) => some (.set s, after)
    | some (.look _, _) | none => none
  | c :: rest => char c rest

/-- How two parts of a bracketed set are combined. -/
inductive SetOp where
  | inter
  | minus
  | either
  deriving DecidableEq

/-- Combines two sets. -/
def SetOp.combine (op : SetOp) (s t : List Unicode.Range) : List Unicode.Range :=
  match op with
  | .inter => Unicode.inter s t
  | .minus => Unicode.minus s t
  | .either => Unicode.union (Unicode.minus s t) (Unicode.minus t s)

/-- A set and how deep it is nested. -/
structure Nested where
  set : List Unicode.Range
  depth : Nat

/-- Items that stand side by side: their characters, how many items there are, and how deep the
deepest is nested. -/
structure Items where
  set : List Unicode.Range := []
  count : Nat := 0
  depth : Nat := 0

/-- One more item. -/
def Items.add (items : Items) (s : List Unicode.Range) (depth : Nat) : Items :=
  ⟨items.set ++ s, items.count + 1, max items.depth depth⟩

/-- Items as a set. Two of them are nested in their union. -/
def Items.toNested (items : Items) : Nested :=
  ⟨Unicode.joined items.set, if items.count ≤ 1 then items.depth else items.depth + 1⟩

/-- Items combined with the part before them, if there is one. -/
def Items.after (flags : Flags) (items : Items) (before : Option (Nested × SetOp)) : Nested :=
  let right := items.toNested
  match before with
  | none => right
  | some (left, op) =>
    ⟨op.combine (flags.fold left.set) (flags.fold right.set), max left.depth right.depth + 1⟩

/-- The first character that is no blank, or the first one at all if there is none; a comment sign
counts as a blank once. -/
def peek (flags : Flags) (cs : List Char) : Option Char :=
  if !flags.verbose then cs.head?
  else
    let blank := Text.isBlank
    let seen := match cs.dropWhile blank with
      | '#' :: rest => rest.dropWhile blank
      | rest => rest
    seen.head? <|> cs.head?

/-- The hyphens that a bracketed set begins with: how many they are, so many at most, and the
rest. -/
def hyphens (flags : Flags) : Nat → List Char → Nat × List Char
  | 0, cs => (0, cs)
  | fuel + 1, cs =>
    match cs with
    | '-' :: rest =>
      let (n, rest) := hyphens flags fuel (skip flags rest)
      (n + 1, rest)
    | _ => (0, cs)

mutual

/-- A bracketed set after its opening bracket. -/
def bracket? (flags : Flags) : Nat → List Char → Option (Nested × List Char)
  | 0, _ => none
  | fuel + 1, cs => do
    let (negated, cs) := match skip flags cs with
      | '^' :: rest => (true, skip flags rest)
      | rest => (false, rest)
    let hyphen := [Unicode.only '-'.toNat]
    let (n, cs) := hyphens flags cs.length cs
    let start : Items := ⟨if n = 0 then [] else hyphen, n, 0⟩
    let (start, cs) := match n, cs with
      | 0, ']' :: rest => (start.add [Unicode.only ']'.toNat] 0, rest)
      | _, _ => (start, cs)
    let (found, rest) ← items? flags fuel none start cs
    let set ← flags.foldNegate? negated found.set
    some (⟨set, found.depth + 1⟩, rest)

/-- The items of a bracketed set up to its closing bracket. -/
def items? (flags : Flags) :
    Nat → Option (Nested × SetOp) → Items → List Char → Option (Nested × List Char)
  | 0, _, _, _ => none
  | fuel + 1, before, items, cs =>
    let operator (op : SetOp) (rest : List Char) :=
      items? flags fuel (some (items.after flags before, op)) {} rest
    match skip flags cs with
    | [] => none
    | ']' :: rest => some (items.after flags before, rest)
    | '&' :: '&' :: rest => operator .inter rest
    | '-' :: '-' :: rest => operator .minus rest
    | '~' :: '~' :: rest => operator .either rest
    | '[' :: rest =>
      let posix := match rest with
        | ':' :: name => posixClass? name
        | _ => none
      match posix with
      | some (negated, set, rest) => do
        let set ← flags.foldNegate? negated set
        items? flags fuel before (items.add set 0) rest
      | none => do
        let (inner, rest) ← bracket? flags fuel rest
        items? flags fuel before (items.add inner.set inner.depth) rest
    | cs => do
      let (item, rest) ← setItem? flags cs
      let alone :=
        let set := match item with
          | .char c => [Unicode.only c.toNat]
          | .set s => s
        items? flags fuel before (items.add set 0) rest
      match skip flags rest with
      | '-' :: more =>
        if peek flags more == some ']' || peek flags more == some '-' then alone
        else
          let (high, rest) ← setItem? flags (skip flags more)
          match item, high with
          | .char a, .char b =>
            if b < a then none
            else items? flags fuel before (items.add [⟨a.toNat, b.toNat⟩] 0) rest
          | _, _ => none
      | _ => alone

end

end TestFleet.Regex
