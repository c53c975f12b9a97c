import TestFleet.Datum
import TestFleet.Decimal.Notation
/-!
# Writing JSON

`compact` writes a document without white space, `pretty` with two blanks for each level. A number
that is not finite is written `null`. Inside strings only quotes, backslashes and the control
characters below U+0020 are escaped.
-/
namespace TestFleet.Json

/-- A digit of a hexadecimal number, in lower case. -/
def hexChar (n : Nat) : Char :=
  if n < 10 then Char.ofNat ('0'.toNat + n) else Char.ofNat ('a'.toNat + (n - 10))

/-- A character as a string's content holds it. -/
def escaped (c : Char) : List Char :=
  if c = '"' then ['\\', '"']
  else if c = '\\' then ['\\', '\\']
  else if c = '\n' then ['\\', 'n']
  else if c = '\r' then ['\\', 'r']
  else if c = '\t' then ['\\', 't']
  else if c.toNat = 8 then ['\\', 'b']
  else if c.toNat = 12 then ['\\', 'f']
  else if c.toNat < 0x20 then
    ['\\', 'u', '0', '0', hexChar (c.toNat / 16), hexChar (c.toNat % 16)]
  else [c]

/-- A string between quotes. -/
def quoted (s : String) : String :=
  "\"" ++ String.ofList (s.toList.flatMap escaped) ++ "\""

/-- A number with a point or an exponent, or `null`. -/
def number (x : Float) : String :=
  (Decimal.general? x).getD "null"

mutual

/-- A document without white space. -/
def compact : Datum → String
  | .null => "null"
  | .bool b => if b then "true" else "false"
  | .int n => toString n
  | .float x => number x
  | .text s => quoted s
  | .list items => "[" ++ ",".intercalate (compactItems items) ++ "]"
  | .table entries => "\x7b" ++ ",".intercalate (compactEntries entries) ++ "\x7d"

/-- Each item without white space. -/
def compactItems : List Datum → List String
  | [] => []
  | d :: rest => compact d :: compactItems rest

/-- Each entry without white space. -/
def compactEntries : List (String × Datum) → List String
  | [] => []
  | (n, d) :: rest => (quoted n ++ ":" ++ compact d) :: compactEntries rest

end

/-- A new line at a level of nesting. -/
def newline (level : Nat) : String :=
  "\n" ++ String.ofList (List.replicate (2 * level) ' ')

mutual

/-- A document on indented lines. -/
def prettyAt (level : Nat) : Datum → String
  | .list [] => "[]"
  | .table [] => "\x7b\x7d"
  | .list (d :: rest) =>
    "[" ++ ",".intercalate (prettyItems (level + 1) (d :: rest)) ++ newline level ++ "]"
  | .table (e :: rest) =>
    "\x7b" ++ ",".intercalate (prettyEntries (level + 1) (e :: rest)) ++ newline level ++ "\x7d"
  | d => compact d

/-- Each item on a line of its own. -/
def prettyItems (level : Nat) : List Datum → List String
  | [] => []
  | d :: rest => (newline level ++ prettyAt level d) :: prettyItems level rest

/-- Each entry on a line of its own. -/
def prettyEntries (level : Nat) : List (String × Datum) → List String
  | [] => []
  | (n, d) :: rest =>
    (newline level ++ quoted n ++ ": " ++ prettyAt level d) :: prettyEntries level rest

end

/-- A document on indented lines. -/
def pretty (d : Datum) : String := prettyAt 0 d

end TestFleet.Json
