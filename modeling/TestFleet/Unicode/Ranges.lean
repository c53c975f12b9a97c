import TestFleet.Text.Blank
/-!
# Sets of code points

A set of characters is a list of ranges. Tables are written as rows of hexadecimal numbers that say,
in turn, how many code points lie before the next range and how many lie in it. `joined` puts any
list of ranges into ascending order and joins those that overlap or touch; the operations on sets
give joined lists. Surrogates are no characters, so a complement never holds them.
-/
namespace TestFleet.Unicode

/-- The code points from `low` to `high`. -/
structure Range where
  low : Nat
  high : Nat
  deriving DecidableEq, Repr, Inhabited

/-- Whether a code point lies in one of several ranges. -/
def inRanges (ranges : List Range) (n : Nat) : Bool :=
  ranges.any fun r => r.low ≤ n && n ≤ r.high

/-- Ranges in ascending order joined where they overlap or touch, `r` before all of them. -/
def joinFrom (r : Range) : List Range → List Range
  | [] => [r]
  | s :: rest =>
    if s.low ≤ r.high + 1 then joinFrom ⟨r.low, max r.high s.high⟩ rest
    else r :: joinFrom s rest

/-- The same set in ascending order, with ranges joined that overlap or touch. -/
def joined (ranges : List Range) : List Range :=
  match ranges.mergeSort fun a b => decide (a.low ≤ b.low) with
  | [] => []
  | r :: rest => joinFrom r rest

/-- The code points from `next` on that lie in none of some ranges in ascending order. -/
def gapsFrom (next : Nat) : List Range → List Range
  | [] => if next ≤ 0x10FFFF then [⟨next, 0x10FFFF⟩] else []
  | r :: rest =>
    (if next < r.low then [⟨next, r.low - 1⟩] else []) ++ gapsFrom (max next (r.high + 1)) rest

/-- The code points that no character has. -/
def surrogates : Range := ⟨0xD800, 0xDFFF⟩

/-- The characters that lie in none of some ranges. -/
def complement (ranges : List Range) : List Range := gapsFrom 0 (joined (surrogates :: ranges))

/-- What lies in one of two sets. -/
def union (a b : List Range) : List Range := joined (a ++ b)

/-- What lies in both of two sets. -/
def inter (a b : List Range) : List Range := complement (union (complement a) (complement b))

/-- What lies in the first of two sets only. -/
def minus (a b : List Range) : List Range := complement (union (complement a) b)

/-- The value of a hexadecimal digit, zero for other characters. -/
def hexValue (c : Char) : Nat :=
  if c.isDigit then c.toNat - '0'.toNat
  else if 'A' ≤ c ∧ c ≤ 'F' then c.toNat - 'A'.toNat + 10
  else 0

/-- The hexadecimal numbers of rows of text, between blanks. -/
def hexNumbers (rows : List String) : List Nat :=
  let words := rows.flatMap fun row => Text.pieces (· == ' ') row.toList
  words.map fun w => w.foldl (fun n c => n * 16 + hexValue c) 0

/-- Ranges from gaps and lengths, in turn. -/
def ofGaps (start : Nat) : List Nat → List Range
  | gap :: count :: rest =>
    let low := start + gap
    ⟨low, low + count - 1⟩ :: ofGaps (low + count) rest
  | _ => []

/-- The ranges that a table's rows stand for. -/
def decode (rows : List String) : List Range := ofGaps 0 (hexNumbers rows)

/-- Every character. -/
def everything : List Range := [⟨0, 0x10FFFF⟩]

end TestFleet.Unicode
