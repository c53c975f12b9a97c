import TestFleet.Toml.DateTime
/-!
# Scalars of TOML

Strings in their four forms, integers in their four bases, and floating-point numbers beside dates
and times.
-/
namespace TestFleet.Toml

/-- Blanks and tabs. -/
def isSpace (c : Char) : Bool := c == ' ' || c == '\t'

/-- The rest after blanks and tabs. -/
def skipSpace (cs : List Char) : List Char := cs.dropWhile isSpace

/-- The rest after a line end. -/
def newline? : List Char → Option (List Char)
  | '\n' :: rest => some rest
  | '\r' :: '\n' :: rest => some rest
  | _ => none

/-- Characters that stand for themselves in comments and literal strings. -/
def isPlain (c : Char) : Bool :=
  c == '\t' || (0x20 ≤ c.toNat && c.toNat ≤ 0x7E) || 0x80 ≤ c.toNat

/-- The value of a digit in a base up to sixteen. -/
def digitIn? (base : Nat) (c : Char) : Option Nat :=
  let v? :=
    if c.isDigit then some (c.toNat - '0'.toNat)
    else if 'a' ≤ c ∧ c ≤ 'f' then some (c.toNat - 'a'.toNat + 10)
    else if 'A' ≤ c ∧ c ≤ 'F' then some (c.toNat - 'A'.toNat + 10)
    else none
  v?.bind fun v => if v < base then some v else none

/-- So many hexadecimal digits. -/
def hexDigits? : Nat → Nat → List Char → Option (Nat × List Char)
  | 0, value, cs => some (value, cs)
  | n + 1, value, c :: cs => do
    let d ← digitIn? 16 c
    hexDigits? n (value * 16 + d) cs
  | _ + 1, _, [] => none

/-- A character given by its code point in so many hexadecimal digits. -/
def codePoint? (digits : Nat) (cs : List Char) : Option (Char × List Char) := do
  let (n, rest) ← hexDigits? digits 0 cs
  if n < 0xD800 ∨ (0xDFFF < n ∧ n < 0x110000) then some (Char.ofNat n, rest) else none

/-- An escape, after its backslash. -/
def escape? : List Char → Option (Char × List Char)
  | 'b' :: rest => some (Char.ofNat 8, rest)
  | 't' :: rest => some ('\t', rest)
  | 'n' :: rest => some ('\n', rest)
  | 'f' :: rest => some (Char.ofNat 12, rest)
  | 'r' :: rest => some ('\r', rest)
  | '"' :: rest => some ('"', rest)
  | '\\' :: rest => some ('\\', rest)
  | 'u' :: rest => codePoint? 4 rest
  | 'U' :: rest => codePoint? 8 rest
  | _ => none

/-- The content of a string on one line, in reverse, up to its closing quote. -/
def lineBody (quote : Char) (escapes : Bool) :
    Nat → List Char → List Char → Option (List Char × List Char)
  | 0, _, _ => none
  | _ + 1, _, [] => none
  | fuel + 1, done, c :: rest =>
    if c = quote then some (done, rest)
    else if c = '\\' ∧ escapes then do
      let (e, rest) ← escape? rest
      lineBody quote escapes fuel (e :: done) rest
    else if isPlain c then lineBody quote escapes fuel (c :: done) rest
    else none

/-- The rest after blanks and line ends. -/
def skipLines : Nat → List Char → List Char
  | 0, cs => cs
  | fuel + 1, cs =>
    match newline? (skipSpace cs) with
    | some rest => skipLines fuel rest
    | none => skipSpace cs

/-- The content of a string on several lines, in reverse, up to its three closing quotes. One or
two quotes right before those belong to the content. -/
def blockBody (quote : Char) (escapes : Bool) :
    Nat → List Char → List Char → Option (List Char × List Char)
  | 0, _, _ => none
  | _ + 1, _, [] => none
  | fuel + 1, done, c :: rest =>
    if c = quote then
      let run := (c :: rest).takeWhile (· == quote)
      if run.length < 3 then blockBody quote escapes fuel (c :: done) rest
      else if 5 < run.length then none
      else some (run.drop 3 ++ done, (c :: rest).drop run.length)
    else if c = '\\' ∧ escapes then
      match newline? (skipSpace rest) with
      | some after => blockBody quote escapes fuel done (skipLines after.length after)
      | none => do
        let (e, rest) ← escape? rest
        blockBody quote escapes fuel (e :: done) rest
    else
      match newline? (c :: rest) with
      | some rest => blockBody quote escapes fuel ('\n' :: done) rest
      | none => if isPlain c then blockBody quote escapes fuel (c :: done) rest else none

/-- A text from its reversed characters. -/
def ofReversed (read : Option (List Char × List Char)) : Option (String × List Char) :=
  read.map fun (reversed, rest) => (String.ofList reversed.reverse, rest)

/-- The rest after the line end that may follow three opening quotes. -/
def afterOpening (cs : List Char) : List Char := (newline? cs).getD cs

/-- A string of any form. -/
def string? (cs : List Char) : Option (String × List Char) :=
  match cs with
  | '"' :: '"' :: '"' :: rest =>
    ofReversed (blockBody '"' true (cs.length + 1) [] (afterOpening rest))
  | '\'' :: '\'' :: '\'' :: rest =>
    ofReversed (blockBody '\'' false (cs.length + 1) [] (afterOpening rest))
  | '"' :: rest => ofReversed (lineBody '"' true (cs.length + 1) [] rest)
  | '\'' :: rest => ofReversed (lineBody '\'' false (cs.length + 1) [] rest)
  | _ => none

/-- Digits that single underscores may separate, as their values. -/
def digitRun (base : Nat) : List Char → List Nat × List Char
  | '_' :: c :: rest =>
    match digitIn? base c with
    | some d => let (ds, after) := digitRun base rest; (d :: ds, after)
    | none => ([], '_' :: c :: rest)
  | c :: rest =>
    match digitIn? base c with
    | some d => let (ds, after) := digitRun base rest; (d :: ds, after)
    | none => ([], c :: rest)
  | [] => ([], [])

/-- At least one digit, the first without an underscore before it. -/
def digits? (base : Nat) (cs : List Char) : Option (List Nat × List Char) :=
  match cs with
  | c :: _ => if (digitIn? base c).isSome then some (digitRun base cs) else none
  | [] => none

/-- The number that digits write. -/
def ofDigits (base : Nat) (ds : List Nat) : Nat := ds.foldl (fun n d => n * base + d) 0

/-- An optional sign: whether it is a minus. -/
def sign : List Char → Bool × List Char
  | '+' :: rest => (false, rest)
  | '-' :: rest => (true, rest)
  | rest => (false, rest)

/-- A whole part: a lone zero, or digits that do not start with one. -/
def wholePart? (cs : List Char) : Option (List Nat × List Char) :=
  match cs with
  | '0' :: rest => some ([0], rest)
  | _ => digits? 10 cs

/-- An exponent. -/
def exponent? (cs : List Char) : Option (Int × List Char) :=
  match cs with
  | c :: rest =>
    if c = 'e' ∨ c = 'E' then do
      let (minus, rest) := sign rest
      let (ds, rest) ← digits? 10 rest
      let n : Int := ofDigits 10 ds
      some (if minus then -n else n, rest)
    else none
  | [] => none

/-- The double nearest to a whole number times a power of ten. -/
def nearest (mantissa : Nat) (exponent : Int) : Float :=
  if mantissa = 0 then 0.0
  else if 400 < exponent then Float.ofScientific 1 false 400
  else if 0 ≤ exponent then Float.ofScientific mantissa false exponent.toNat
  else if exponent < -(((toString mantissa).length : Int) + 400) then 0.0
  else Float.ofScientific mantissa true exponent.natAbs

/-- A floating-point number that is written with digits. -/
def float? (cs : List Char) : Option (Float × List Char) := do
  let (minus, rest) := sign cs
  let (whole, rest) ← wholePart? rest
  let (mantissa, places, rest, pointed) ← match rest with
    | '.' :: after => do
      let (ds, after) ← digits? 10 after
      some (ofDigits 10 (whole ++ ds), ds.length, after, true)
    | _ => some (ofDigits 10 whole, 0, rest, false)
  let (e, rest) ← match exponent? rest with
    | some (e, after) => some (e, after)
    | none => if pointed then some (0, rest) else none
  let magnitude := nearest mantissa (e - places)
  if magnitude.isInf ∧ ¬ minus then none
  else some (if minus then -magnitude else magnitude, rest)

/-- An infinity or a NaN. -/
def special? (cs : List Char) : Option (Float × List Char) :=
  let (minus, rest) := sign cs
  match rest with
  | 'i' :: 'n' :: 'f' :: rest =>
    let x : Float := 1.0 / 0.0
    some (if minus then -x else x, rest)
  | 'n' :: 'a' :: 'n' :: rest => some (0.0 / 0.0, rest)
  | _ => none

/-- An integer of 64 bits. -/
def integer? (cs : List Char) : Option (Int × List Char) := do
  let (n, rest) ← match cs with
    | '0' :: 'x' :: rest => (digits? 16 rest).map fun (ds, r) => ((ofDigits 16 ds : Int), r)
    | '0' :: 'o' :: rest => (digits? 8 rest).map fun (ds, r) => ((ofDigits 8 ds : Int), r)
    | '0' :: 'b' :: rest => (digits? 2 rest).map fun (ds, r) => ((ofDigits 2 ds : Int), r)
    | _ => do
      let (minus, rest) := sign cs
      let (ds, rest) ← wholePart? rest
      let n : Int := ofDigits 10 ds
      some (if minus then -n else n, rest)
  if Datum.fitsSigned 64 n then some (n, rest) else none

/-- Whether a text starts as a date or a time of day. -/
def looksLikeDateTime (cs : List Char) : Bool :=
  match cs with
  | a :: b :: c :: d :: e :: _ =>
    a.isDigit && b.isDigit && (c == ':' || (c.isDigit && d.isDigit && e == '-'))
  | _ => false

/-- A number, or a date or time. -/
def numeric? (cs : List Char) : Option (Datum × List Char) :=
  if looksLikeDateTime cs then
    (dateTime? .document cs).map fun (s, rest) => (dateTimeTable s, rest)
  else
    match float? cs with
    | some (x, rest) => some (.float x, rest)
    | none =>
      match special? cs with
      | some (x, rest) => some (.float x, rest)
      | none => (integer? cs).map fun (n, rest) => (.int n, rest)

end TestFleet.Toml
