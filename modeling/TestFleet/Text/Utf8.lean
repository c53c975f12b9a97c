import TestFleet.Text.Blank
/-!
# UTF-8

Octets are read by a machine that holds the character begun so far: its bits, the number of
continuation octets it still owes, and the range the next one must be in. `decode?` refuses a
sequence that is not UTF-8; `decodeLossy` writes U+FFFD once for every longest beginning of a
character that the next octet cannot continue, and for every octet that begins none.
-/
namespace TestFleet.Text.Utf8

/-- A character begun: its bits so far, the octets owed, and the bounds of the next octet. -/
structure Begun where
  bits : Nat
  owed : Nat
  low : Nat
  high : Nat
  deriving DecidableEq, Repr

/-- What an octet is when it stands where a character begins. -/
inductive Lead where
  | whole (c : Char)
  | opens (b : Begun)
  | invalid
  deriving DecidableEq, Repr

/-- The role of an octet between characters. -/
def lead (octet : UInt8) : Lead :=
  let n := octet.toNat
  if n < 0x80 then .whole (Char.ofNat n)
  else if 0xC2 ≤ n ∧ n ≤ 0xDF then .opens ⟨n - 0xC0, 1, 0x80, 0xBF⟩
  else if n = 0xE0 then .opens ⟨0, 2, 0xA0, 0xBF⟩
  else if n = 0xED then .opens ⟨0xD, 2, 0x80, 0x9F⟩
  else if 0xE1 ≤ n ∧ n ≤ 0xEF then .opens ⟨n - 0xE0, 2, 0x80, 0xBF⟩
  else if n = 0xF0 then .opens ⟨0, 3, 0x90, 0xBF⟩
  else if 0xF1 ≤ n ∧ n ≤ 0xF3 then .opens ⟨n - 0xF0, 3, 0x80, 0xBF⟩
  else if n = 0xF4 then .opens ⟨4, 3, 0x80, 0x8F⟩
  else .invalid

/-- A begun character after one more octet, if that octet may follow. -/
def Begun.next? (b : Begun) (octet : UInt8) : Option Begun :=
  let n := octet.toNat
  if b.low ≤ n ∧ n ≤ b.high then
    some ⟨b.bits * 64 + (n - 0x80), b.owed - 1, 0x80, 0xBF⟩
  else none

/-- The replacement character, U+FFFD. -/
def replacement : Char := Char.ofNat 0xFFFD

/-- The octets of characters, in order. -/
def encode (cs : List Char) : List UInt8 :=
  cs.flatMap String.utf8EncodeChar

/-- Reads octets from inside or between characters, replacing what is not UTF-8. -/
def readLossy : Option Begun → List UInt8 → List Char
  | none, [] => []
  | some _, [] => [replacement]
  | none, o :: rest =>
    match lead o with
    | .whole c => c :: readLossy none rest
    | .opens b => readLossy (some b) rest
    | .invalid => replacement :: readLossy none rest
  | some b, o :: rest =>
    match b.next? o with
    | some b' =>
      if b'.owed = 0 then Char.ofNat b'.bits :: readLossy none rest
      else readLossy (some b') rest
    | none =>
      match lead o with
      | .whole c => replacement :: c :: readLossy none rest
      | .opens b' => replacement :: readLossy (some b') rest
      | .invalid => replacement :: replacement :: readLossy none rest

/-- The text that octets stand for, with U+FFFD where they are not UTF-8. -/
def decodeLossy (octets : List UInt8) : String :=
  String.ofList (readLossy none octets)

/-- Reads octets from inside or between characters, refusing what is not UTF-8. -/
def readStrict : Option Begun → List UInt8 → Option (List Char)
  | none, [] => some []
  | some _, [] => none
  | none, o :: rest =>
    match lead o with
    | .whole c => (readStrict none rest).map (c :: ·)
    | .opens b => readStrict (some b) rest
    | .invalid => none
  | some b, o :: rest =>
    match b.next? o with
    | some b' =>
      if b'.owed = 0 then (readStrict none rest).map (Char.ofNat b'.bits :: ·)
      else readStrict (some b') rest
    | none => none

/-- The text that octets stand for, if they are UTF-8. -/
def decode? (octets : List UInt8) : Option String :=
  (readStrict none octets).map String.ofList

end TestFleet.Text.Utf8
