import TestFleet.Json.Number
import TestFleet.Text.Utf8
/-!
# Reading JSON

`parseOctets?` reads one JSON document from octets, each of them seen as the character with its
number; strings are UTF-8. Names of an object stay in written order, repeated ones included. Arrays
and objects may be nested 127 deep. Surrogates in escapes must come in pairs.
-/
namespace TestFleet.Json

/-- The rest after JSON's own white space. -/
def skipSpace (cs : List Char) : List Char :=
  cs.dropWhile fun c => c == ' ' || c == '\n' || c == '\t' || c == '\r'

/-- The value of a hexadecimal digit. -/
def hexDigit? (c : Char) : Option Nat :=
  if c.isDigit then some (c.toNat - '0'.toNat)
  else if 'a' ≤ c ∧ c ≤ 'f' then some (c.toNat - 'a'.toNat + 10)
  else if 'A' ≤ c ∧ c ≤ 'F' then some (c.toNat - 'A'.toNat + 10)
  else none

/-- Four hexadecimal digits. -/
def hexFour? : List Char → Option (Nat × List Char)
  | a :: b :: c :: d :: rest => do
    let w ← hexDigit? a
    let x ← hexDigit? b
    let y ← hexDigit? c
    let z ← hexDigit? d
    some (((w * 16 + x) * 16 + y) * 16 + z, rest)
  | _ => none

/-- A character escaped by its UTF-16 units, after the first `\u`. -/
def unicodeEscape? (cs : List Char) : Option (Char × List Char) := do
  let (unit, rest) ← hexFour? cs
  if 0xDC00 ≤ unit ∧ unit ≤ 0xDFFF then none
  else if 0xD800 ≤ unit ∧ unit ≤ 0xDBFF then
    match rest with
    | '\\' :: 'u' :: rest => do
      let (second, rest) ← hexFour? rest
      if 0xDC00 ≤ second ∧ second ≤ 0xDFFF then
        some (Char.ofNat (0x10000 + (unit - 0xD800) * 0x400 + (second - 0xDC00)), rest)
      else none
    | _ => none
  else some (Char.ofNat unit, rest)

/-- One escape, after its backslash. -/
def escape? : List Char → Option (Char × List Char)
  | 'u' :: rest => unicodeEscape? rest
  | c :: rest =>
    match c with
    | '"' => some ('"', rest)
    | '\\' => some ('\\', rest)
    | '/' => some ('/', rest)
    | 'b' => some (Char.ofNat 8, rest)
    | 'f' => some (Char.ofNat 12, rest)
    | 'n' => some ('\n', rest)
    | 'r' => some ('\r', rest)
    | 't' => some ('\t', rest)
    | _ => none
  | [] => none

/-- The octets of a string after its opening quote, in reverse, and what follows it. -/
def stringBody : Nat → List UInt8 → List Char → Option (List UInt8 × List Char)
  | 0, _, _ => none
  | _ + 1, _, [] => none
  | fuel + 1, done, c :: rest =>
    if c = '"' then some (done, rest)
    else if c = '\\' then do
      let (e, rest) ← escape? rest
      stringBody fuel ((Text.Utf8.encode [e]).reverse ++ done) rest
    else if c.toNat < 0x20 then none
    else stringBody fuel (c.toNat.toUInt8 :: done) rest

/-- A string after its opening quote. -/
def string? (cs : List Char) : Option (String × List Char) := do
  let (reversed, rest) ← stringBody (cs.length + 1) [] cs
  some (← Text.Utf8.decode? reversed.reverse, rest)

mutual

/-- A value; `depth` more levels of nesting are allowed. -/
def value? : Nat → Nat → List Char → Option (Datum × List Char)
  | 0, _, _ => none
  | fuel + 1, depth, cs =>
    match skipSpace cs with
    | 'n' :: 'u' :: 'l' :: 'l' :: rest => some (.null, rest)
    | 't' :: 'r' :: 'u' :: 'e' :: rest => some (.bool true, rest)
    | 'f' :: 'a' :: 'l' :: 's' :: 'e' :: rest => some (.bool false, rest)
    | '"' :: rest => (string? rest).map fun (s, r) => (.text s, r)
    | '[' :: rest =>
      match depth with
      | 0 => none
      | depth + 1 =>
        match skipSpace rest with
        | ']' :: rest => some (.list [], rest)
        | rest => (items? fuel depth rest).map fun (ds, r) => (.list ds, r)
    | '{' :: rest =>
      match depth with
      | 0 => none
      | depth + 1 =>
        match skipSpace rest with
        | '}' :: rest => some (.table [], rest)
        | rest => (entries? fuel depth rest).map fun (es, r) => (.table es, r)
    | rest => readNumber rest

/-- The items of an array up to its closing bracket. -/
def items? : Nat → Nat → List Char → Option (List Datum × List Char)
  | 0, _, _ => none
  | fuel + 1, depth, cs => do
    let (d, rest) ← value? fuel depth cs
    match skipSpace rest with
    | ',' :: rest => do
      let (ds, rest) ← items? fuel depth rest
      some (d :: ds, rest)
    | ']' :: rest => some ([d], rest)
    | _ => none

/-- The entries of an object up to its closing brace. -/
def entries? : Nat → Nat → List Char → Option (List (String × Datum) × List Char)
  | 0, _, _ => none
  | fuel + 1, depth, cs =>
    match skipSpace cs with
    | '"' :: rest => do
      let (name, rest) ← string? rest
      match skipSpace rest with
      | ':' :: rest => do
        let (d, rest) ← value? fuel depth rest
        match skipSpace rest with
        | ',' :: rest => do
          let (es, rest) ← entries? fuel depth rest
          some ((name, d) :: es, rest)
        | '}' :: rest => some ([(name, d)], rest)
        | _ => none
      | _ => none
    | _ => none

end

/-- The levels of nesting a document may have. -/
def nestingLimit : Nat := 127

/-- Reads a document from octets seen as characters. -/
def parseChars? (cs : List Char) : Option Datum := do
  let (d, rest) ← value? (2 * cs.length + 2) nestingLimit cs
  if (skipSpace rest).isEmpty then some d else none

/-- Octets as the characters with their numbers. -/
def octetChars (octets : List UInt8) : List Char := octets.map fun o => Char.ofNat o.toNat

/-- Reads a document from octets. -/
def parseOctets? (octets : List UInt8) : Option Datum := parseChars? (octetChars octets)

/-- Reads a document from text. -/
def parse? (s : String) : Option Datum := parseOctets? (Text.Utf8.encode s.toList)

end TestFleet.Json
