import TestFleet.Datum
/-!
# Numbers of a JSON document

A number without point and exponent that fits 64 bits is an integer; every other one is a double.
A double is read as a significand of at most 64 bits (digits that no longer fit are dropped) times
a power of ten, with one rounding for the significand and one for the scaling. A number too large
for a double is refused.
-/
namespace TestFleet.Json

/-- The greatest significand that is kept exactly. -/
def significandLimit : Nat := Nat.pow 2 64 - 1

/-- The significand times a power of ten; none if it is too large. -/
def scaled : Nat → Float → Int → Option Float
  | 0, _, _ => none
  | fuel + 1, f, exponent =>
    if exponent.natAbs ≤ 308 then
      let power := Float.ofScientific 1 false exponent.natAbs
      if 0 ≤ exponent then
        let g := f * power
        if g.isInf then none else some g
      else some (f / power)
    else if f == 0.0 then some f
    else if 0 ≤ exponent then none
    else scaled fuel (f / Float.ofScientific 1 false 308) (exponent + 308)

/-- A signed significand times a power of ten. -/
def double (negative : Bool) (significand : Nat) (exponent : Int) :
    Option Datum :=
  (scaled 8 (Float.ofNat significand) exponent).map fun f => .float (if negative then -f else f)

/-- Reads digits into a significand until one no longer fits: the significand, the number of
digits read, and what follows. -/
def readDigits (significand count : Nat) : List Char → Nat × Nat × List Char
  | [] => (significand, count, [])
  | c :: rest =>
    if c.isDigit then
      let next := significand * 10 + (c.toNat - '0'.toNat)
      if significandLimit < next then (significand, count, c :: rest)
      else readDigits next (count + 1) rest
    else (significand, count, c :: rest)

/-- The digits at the front of a text, and what follows them. -/
def spanDigits (cs : List Char) : List Char × List Char :=
  (cs.takeWhile Char.isDigit, cs.dropWhile Char.isDigit)

/-- Reads an exponent after its letter, if one is there, and finishes the number. -/
def readExponent (negative : Bool) (significand : Nat) (exponent : Int) (cs : List Char) :
    Option (Datum × List Char) :=
  match cs with
  | c :: rest =>
    if c = 'e' ∨ c = 'E' then
      let (minus, rest) := match rest with
        | '+' :: r => (false, r)
        | '-' :: r => (true, r)
        | r => (false, r)
      let (digits, rest) := spanDigits rest
      if digits.isEmpty then none
      else
        let e := digits.foldl (fun n c => n * 10 + (c.toNat - '0'.toNat)) 0
        if Nat.pow 2 31 ≤ e then
          if significand ≠ 0 ∧ ¬ minus then none
          else some (.float (if negative then -0.0 else 0.0), rest)
        else
          (double negative significand (exponent + (if minus then -(e : Int) else e))).map (·, rest)
    else (double negative significand exponent).map (·, cs)
  | [] => (double negative significand exponent).map (·, cs)

/-- Reads the decimals after a point and finishes the number. -/
def readDecimals (negative : Bool) (significand : Nat) (exponent : Int) (cs : List Char) :
    Option (Datum × List Char) :=
  if (spanDigits cs).1.isEmpty then none
  else
    let (significand, count, rest) := readDigits significand 0 cs
    readExponent negative significand (exponent - count) (spanDigits rest).2

/-- Finishes a number after its whole part, of which `dropped` digits were left out. -/
def readFraction (negative : Bool) (significand : Nat) (dropped : Nat) (cs : List Char) :
    Option (Datum × List Char) :=
  match cs with
  | '.' :: rest => readDecimals negative significand dropped rest
  | c :: _ =>
    if c = 'e' ∨ c = 'E' then readExponent negative significand dropped cs
    else if dropped = 0 then some (whole, cs)
    else (double negative significand dropped).map (·, cs)
  | [] =>
    if dropped = 0 then some (whole, []) else (double negative significand dropped).map (·, [])
where
  whole : Datum :=
    if negative then
      if significand = 0 ∨ Nat.pow 2 63 < significand then .float (-(Float.ofNat significand))
      else .int (-(significand : Int))
    else .int significand

/-- Reads a number without its sign. -/
def readMagnitude (negative : Bool) (cs : List Char) : Option (Datum × List Char) :=
  match cs with
  | '0' :: rest =>
    if (spanDigits rest).1.isEmpty then readFraction negative 0 0 rest else none
  | c :: _ =>
    if c.isDigit then
      let (significand, _, rest) := readDigits 0 0 cs
      let (dropped, rest) := spanDigits rest
      readFraction negative significand dropped.length rest
    else none
  | [] => none

/-- Reads a number. -/
def readNumber (cs : List Char) : Option (Datum × List Char) :=
  match cs with
  | '-' :: rest => readMagnitude true rest
  | _ => readMagnitude false cs

end TestFleet.Json
