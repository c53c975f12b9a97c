import TestFleet.Text.Blank
/-!
# Quoting words for a shell

A word that holds nothing special stands as it is. Any other word stands between single quotes,
and a single quote in it is written `'\''`. The empty word is `''`. This is how shell-words quotes.
-/
namespace TestFleet.Shell

/-- The characters that a word cannot hold unquoted. -/
def isSpecial (c : Char) : Bool :=
  "\n \t`\\'\"|&;<>()$*?[#~=%".toList.contains c

/-- A character between single quotes. -/
def quotedChar (c : Char) : List Char := if c = '\'' then ['\'', '\\', '\'', '\''] else [c]

/-- A word so that a shell reads it back. -/
def quoteChars (cs : List Char) : List Char :=
  if cs.isEmpty then ['\'', '\'']
  else if cs.any isSpecial then ['\''] ++ cs.flatMap quotedChar ++ ['\'']
  else cs

/-- A word so that a shell reads it back. -/
def quote (s : String) : String := String.ofList (quoteChars s.toList)

end TestFleet.Shell
