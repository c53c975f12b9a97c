import TestFleet.Unicode.Folding
/-!
# Sets of characters as sequences of octets

In UTF-8 the code points of one length are numbers to the base 64 with marks added to their digits.
A range of code points falls into sequences of digit ranges, in ascending order, such that every
choice of digits from a sequence is a code point of the range: `Range.octets`. Such sequences form
an automaton; `sharedNodes` lists its nodes when equal ends are shared, and `branches` counts its
branches when equal beginnings are.
-/
namespace TestFleet.Unicode

/-- The numbers from `low` to `high` as sequences of ranges of digits to the base 64, one digit
and so many more; the first digit may be larger than 63. -/
def digitRanges : Nat → Nat → Nat → List (List Range)
  | 0, low, high => [[⟨low, high⟩]]
  | more + 1, low, high =>
    let unit := Nat.pow 64 (more + 1)
    let a := low / unit
    let b := high / unit
    if a = b then (digitRanges more (low % unit) (high % unit)).map (only a :: ·)
    else
      let startsEven := low % unit = 0
      let endsEven := high % unit = unit - 1
      let first :=
        if startsEven then [] else (digitRanges more (low % unit) (unit - 1)).map (only a :: ·)
      let last := if endsEven then [] else (digitRanges more 0 (high % unit)).map (only b :: ·)
      let a := if startsEven then a else a + 1
      let stop := if endsEven then b + 1 else b
      let whole :=
        if a < stop then [⟨a, stop - 1⟩ :: List.replicate (more + 1) ⟨0, 63⟩] else []
      first ++ whole ++ last

/-- The code points that take equally many octets: their range, how many octets follow the first,
and the mark of the first. Surrogates take none. -/
def octetLengths : List (Range × Nat × Nat) :=
  [(⟨0, 0x7F⟩, 0, 0), (⟨0x80, 0x7FF⟩, 1, 0xC0), (⟨0x800, 0xD7FF⟩, 2, 0xE0),
    (⟨0xE000, 0xFFFF⟩, 2, 0xE0), (⟨0x10000, 0x10FFFF⟩, 3, 0xF0)]

/-- The same range further up. -/
def Range.shift (distance : Nat) (r : Range) : Range := ⟨r.low + distance, r.high + distance⟩

/-- The sequences of ranges of octets that a range of code points takes. -/
def Range.octets (r : Range) : List (List Range) :=
  octetLengths.flatMap fun (within, more, mark) =>
    let low := max r.low within.low
    let high := min r.high within.high
    if low ≤ high then
      (digitRanges more low high).map fun
        | first :: rest => first.shift mark :: rest.map (Range.shift 0x80)
        | [] => []
    else []

/-- Sequences by their first ranges, where neighbours share one, with what follows it. -/
def byFirst : List (List Range) → List (Range × List (List Range))
  | [] => []
  | [] :: rest => byFirst rest
  | (r :: more) :: rest =>
    match byFirst rest with
    | (s, group) :: others =>
      if r = s then (r, more :: group) :: others else (r, [more]) :: (s, group) :: others
    | [] => [(r, [more])]

/-- A node of an automaton of octets: its branches, each with the number of the node that it leads
to. The end has the number zero. -/
abbrev OctetNode := List (Range × Nat)

/-- Adds the node of some sequences, of at most so many octets, to known nodes, unless an equal one
is known; also gives its number. -/
def addNode : Nat → List (List Range) → Array OctetNode → Nat × Array OctetNode
  | 0, _, known => (0, known)
  | length + 1, sequences, known =>
    let (node, known) := (byFirst sequences).foldl
      (fun (node, known) (r, rests) =>
        if rests == [[]] then (node ++ [(r, 0)], known)
        else
          let (i, known) := addNode length rests known
          (node ++ [(r, i)], known))
      ([], known)
    match known.idxOf? node with
    | some i => (i + 1, known)
    | none => (known.size + 1, known.push node)

/-- The nodes of the automaton of a set, equal ones shared. -/
def sharedNodes (sequences : List (List Range)) : List OctetNode :=
  (addNode 4 sequences #[]).2.toList

/-- How many branches sequences of at most so many octets have when equal beginnings are shared. -/
def branches : Nat → List (List Range) → Nat
  | 0, _ => 0
  | length + 1, sequences =>
    (byFirst sequences).foldl (fun n (_, rests) => n + 1 + branches length rests) 0

end TestFleet.Unicode
