import TestFleet.Text.Blank
/-!
# Replacing text

Every occurrence of a text is replaced, from left to right; what was put in is not looked at again.
-/
namespace TestFleet.Text

/-- Replaces a text, the next `skipped` characters belonging to an occurrence already replaced. -/
def replaceFrom (wanted new : List Char) : Nat → List Char → List Char
  | _, [] => []
  | skipped + 1, _ :: rest => replaceFrom wanted new skipped rest
  | 0, c :: rest =>
    if wanted.isPrefixOf (c :: rest) then
      new ++ replaceFrom wanted new (wanted.length - 1) rest
    else c :: replaceFrom wanted new 0 rest

/-- A text with every occurrence of another, which is not empty, replaced. -/
def replaceChars (wanted new cs : List Char) : List Char := replaceFrom wanted new 0 cs

end TestFleet.Text
