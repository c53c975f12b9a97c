import TestFleet.Text.Blank
/-!
# Identifiers of runs

A run is told apart from others by 128 random bits, written as 32 hexadecimal digits in groups of
8, 4, 4, 4 and 12. They are read with or without hyphens, in braces, or after `urn:uuid:`.
-/
namespace TestFleet

/-- What tells a run apart from others. -/
structure RunId where
  bits : Nat
  deriving DecidableEq, Repr, Inhabited

namespace RunId

/-- The identifier without a bit set. -/
def nil : RunId := ⟨0⟩

/-- An identifier of random bits, six of which are fixed: version 4, and the variant 10. -/
def ofRandom (bits : Nat) : RunId :=
  let low := bits % Nat.pow 2 62
  let middle := bits / Nat.pow 2 62 % Nat.pow 2 12
  let high := bits / Nat.pow 2 74 % Nat.pow 2 48
  ⟨((high * Nat.pow 2 4 + 4) * Nat.pow 2 12 + middle) * Nat.pow 2 64 + Nat.pow 2 63 + low⟩

/-- The lengths of the groups of digits. -/
def groups : List Nat := [8, 4, 4, 4, 12]

/-- Hexadecimal digits of a number, the last `count` of them. -/
def hexDigits (count n : Nat) : List Char :=
  let digits := (Nat.toDigits 16 (n % Nat.pow 16 count)).map Char.toLower
  List.replicate (count - digits.length) '0' ++ digits

/-- Digits cut into groups. -/
def cut : List Nat → List Char → List String
  | [], _ => []
  | n :: rest, ds => String.ofList (ds.take n) :: cut rest (ds.drop n)

/-- The identifier as it is written. -/
def text (id : RunId) : String := "-".intercalate (cut groups (hexDigits 32 id.bits))

/-- The value of a hexadecimal digit. -/
def digit? (c : Char) : Option Nat :=
  if c.isDigit then some (c.toNat - '0'.toNat)
  else if 'a' ≤ c ∧ c ≤ 'f' then some (c.toNat - 'a'.toNat + 10)
  else if 'A' ≤ c ∧ c ≤ 'F' then some (c.toNat - 'A'.toNat + 10)
  else none

/-- Reads digits that nothing else stands between. -/
def ofDigits? (cs : List Char) : Option RunId := do
  let ds ← cs.mapM digit?
  if ds.length = 32 then some ⟨ds.foldl (fun n d => n * 16 + d) 0⟩ else none

/-- Takes the hyphens between the groups away. -/
def joinGroups? : List Nat → List Char → Option (List Char)
  | [], cs => if cs.isEmpty then some [] else none
  | [n], cs => if cs.length = n then some cs else none
  | n :: rest, cs =>
    match cs.drop n with
    | '-' :: more => (joinGroups? rest more).map (cs.take n ++ ·)
    | _ => none

/-- Reads digits in groups. -/
def ofGroups? (cs : List Char) : Option RunId := do ofDigits? (← joinGroups? groups cs)

/-- Reads an identifier. -/
def ofText? (s : String) : Option RunId :=
  let cs := s.toList
  match Text.dropLeading? "urn:uuid:".toList cs with
  | some rest => ofGroups? rest
  | none =>
    match cs with
    | '\x7b' :: rest =>
      if rest.getLast? = some '\x7d' then ofGroups? rest.dropLast else none
    | _ => if cs.length = 32 then ofDigits? cs else ofGroups? cs

end RunId

end TestFleet
