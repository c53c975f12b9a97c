import TestFleet.Unicode.Classes
/-!
# Quoted texts

A text between double quotes, for people: quotes, backslashes, control characters, characters that
extend the one before them, and all others that do not print are escaped.
-/
namespace TestFleet.Text

/-- The categories of characters that do not print. -/
def unprintable : List String := ["Cc", "Cf", "Co", "Zl", "Zp", "Zs"]

/-- Whether a character shows when it is printed on its own. -/
def isPrintable (c : Char) : Bool :=
  let within (ranges : List Unicode.Range) : Bool := Unicode.inRanges ranges c.toNat
  if c.toNat < 0x80 then 0x20 ≤ c.toNat && c.toNat < 0x7F
  else if within Unicode.newlyAssigned then !within Unicode.newlyExtending
  else
    within Unicode.assigned && !within (Unicode.ofCategories unprintable)
      && !within Unicode.rangesGraphemeExtend

/-- The escape of a character by its code point. -/
def codePointEscape (c : Char) : List Char :=
  ['\\', 'u', '\x7b'] ++ Nat.toDigits 16 c.toNat ++ ['\x7d']

/-- A character as a quoted text holds it. -/
def quotedChar (c : Char) : List Char :=
  if c.toNat = 0 then ['\\', '0']
  else if c = '\t' then ['\\', 't']
  else if c = '\n' then ['\\', 'n']
  else if c = '\r' then ['\\', 'r']
  else if c = '"' then ['\\', '"']
  else if c = '\\' then ['\\', '\\']
  else if isPrintable c then [c]
  else codePointEscape c

/-- A text between double quotes. -/
def quoted (s : String) : String :=
  String.ofList ('"' :: s.toList.flatMap quotedChar ++ ['"'])

/-- Texts between double quotes, as a list. -/
def quotedList (texts : List String) : String :=
  "[" ++ ", ".intercalate (texts.map quoted) ++ "]"

end TestFleet.Text
