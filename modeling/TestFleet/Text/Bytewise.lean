import TestFleet.Text.Utf8
/-!
# Texts seen as octets

A program that knows no characters works on octets. Here it works on texts all the same: each
character of a bytewise text stands for the octet with its number. `ofText` and `toText` change
between a text and the bytewise text of its UTF-8 form.
-/
namespace TestFleet.Text.Bytewise

/-- Octets as a bytewise text. -/
def ofOctets (octets : List UInt8) : String :=
  String.ofList (octets.map fun o => Char.ofNat o.toNat)

/-- The octets of a bytewise text. -/
def octets (s : String) : List UInt8 := s.toList.map (·.toNat.toUInt8)

/-- A text, each octet of its UTF-8 form a character. -/
def ofText (s : String) : String := ofOctets (Utf8.encode s.toList)

/-- The text that a bytewise text stands for, with U+FFFD where that is not UTF-8. -/
def toText (s : String) : String := Utf8.decodeLossy (octets s)

end TestFleet.Text.Bytewise
