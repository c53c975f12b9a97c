import TestFleet.Time.Span
/-!
# Moments

A moment is a number of seconds since 1970-01-01T00:00:00Z and nanoseconds within the second;
a leap second is the second before it with 1,000,000,000 nanoseconds or more. Texts follow
RFC 3339, read leniently (white space between the numbers, one digit where two are usual, a
lower-case or blank separator, `UTC` for the offset) and always written in UTC with 0, 3, 6 or 9
decimals, the fewest that are exact.
-/
namespace TestFleet.Time

/-- A point in time, in UTC. -/
structure Moment where
  seconds : Int
  nanos : Nat
  deriving DecidableEq, Repr, Inhabited

namespace Moment

/-- The start of 1970. -/
def epoch : Moment := ⟨0, 0⟩

/-- The moment a span later. -/
def later (t : Moment) (s : Span) : Moment :=
  let total := t.nanos + s.nanos
  ⟨t.seconds + (total / Span.perSecond : Nat), total % Span.perSecond⟩

/-- Seconds since midnight. -/
def timeOfDay (t : Moment) : Int := t.seconds % 86400

/-- Nanoseconds from `t` to `u`. A leap second counts once either of them lies past it. -/
def nanosBetween (t u : Moment) : Int :=
  let leap : Int :=
    if t.timeOfDay < u.timeOfDay then (if Span.perSecond ≤ t.nanos then 1 else 0)
    else if u.timeOfDay < t.timeOfDay then (if Span.perSecond ≤ u.nanos then -1 else 0)
    else 0
  (u.seconds - t.seconds + leap) * Span.perSecond + ((u.nanos : Int) - (t.nanos : Int))

/-- The span from `t` to `u`, empty if `u` is earlier. -/
def spanUntil (t u : Moment) : Span := ⟨(nanosBetween t u).toNat⟩

@[simp] theorem spanUntil_self (t : Moment) : t.spanUntil t = .zero := by
  simp [spanUntil, nanosBetween, Span.zero]

/-- Days from 1970-01-01 to a date of the Gregorian calendar. -/
def daysOfDate (year : Int) (month day : Nat) : Int :=
  let y := if month ≤ 2 then year - 1 else year
  let era := y.fdiv 400
  let yearOfEra := y - era * 400
  let monthFromMarch : Int := ((month + 9) % 12 : Nat)
  let dayOfYear := (153 * monthFromMarch + 2) / 5 + (day : Int) - 1
  let dayOfEra := yearOfEra * 365 + yearOfEra / 4 - yearOfEra / 100 + dayOfYear
  era * 146097 + dayOfEra - 719468

/-- The date so many days after 1970-01-01: year, month and day. -/
def dateOfDays (days : Int) : Int × Nat × Nat :=
  let z := days + 719468
  let era := z.fdiv 146097
  let dayOfEra := z - era * 146097
  let yearOfEra := (dayOfEra - dayOfEra / 1460 + dayOfEra / 36524 - dayOfEra / 146096) / 365
  let dayOfYear := dayOfEra - (365 * yearOfEra + yearOfEra / 4 - yearOfEra / 100)
  let m := (5 * dayOfYear + 2) / 153
  let day := dayOfYear - (153 * m + 2) / 5 + 1
  let month := if m < 10 then m + 3 else m - 9
  let year := yearOfEra + era * 400 + (if month ≤ 2 then 1 else 0)
  (year, month.toNat, day.toNat)

/-- Leap years have 366 days. -/
def isLeapYear (year : Int) : Bool :=
  (year % 4 == 0 && year % 100 != 0) || year % 400 == 0

/-- The number of days of a month. -/
def daysOfMonth (year : Int) (month : Nat) : Nat :=
  if month = 2 then (if isLeapYear year then 29 else 28)
  else if month = 4 ∨ month = 6 ∨ month = 9 ∨ month = 11 then 30
  else 31

/-- A year with at least four digits, and a sign if it needs more or is negative. -/
def yearText (year : Int) : String :=
  if 0 ≤ year ∧ year ≤ 9999 then Text.padZeros 4 year.toNat
  else (if year < 0 then "-" else "+") ++ Text.padZeros 4 year.natAbs

/-- The decimals of a second, the fewest of 0, 3, 6 and 9 that are exact. -/
def fractionText (nanos : Nat) : String :=
  if nanos = 0 then ""
  else if nanos % 1000000 = 0 then "." ++ Text.padZeros 3 (nanos / 1000000)
  else if nanos % 1000 = 0 then "." ++ Text.padZeros 6 (nanos / 1000)
  else "." ++ Text.padZeros 9 nanos

/-- The moment as RFC 3339 text in UTC. -/
def text (t : Moment) : String :=
  let (year, month, day) := dateOfDays (t.seconds.fdiv 86400)
  let s := t.timeOfDay.toNat
  let leap := t.nanos / Span.perSecond
  yearText year ++ "-" ++ Text.padZeros 2 month ++ "-" ++ Text.padZeros 2 day
    ++ "T" ++ Text.padZeros 2 (s / 3600) ++ ":" ++ Text.padZeros 2 (s / 60 % 60)
    ++ ":" ++ Text.padZeros 2 (s % 60 + leap) ++ fractionText (t.nanos % Span.perSecond) ++ "Z"

/-- A decimal digit's value. -/
def digit? (c : Char) : Option Nat :=
  if c.isDigit then some (c.toNat - '0'.toNat) else none

/-- The number that up to `width` digits write, and what follows; at least one digit. -/
def number? (width : Nat) (cs : List Char) : Option (Nat × List Char) :=
  let digits := (cs.take width).takeWhile Char.isDigit
  if digits.isEmpty then none
  else some (digits.foldl (fun n c => n * 10 + (c.toNat - '0'.toNat)) 0, cs.drop digits.length)

/-- The rest after white space. -/
def skipBlank (cs : List Char) : List Char := cs.dropWhile Text.isBlank

/-- The rest after one given character. -/
def expect? (c : Char) : List Char → Option (List Char)
  | [] => none
  | d :: rest => if c = d then some rest else none

/-- A year: up to four digits, or a sign and any number of them. -/
def year? (cs : List Char) : Option (Int × List Char) :=
  match cs with
  | '-' :: rest => (number? rest.length rest).map fun (n, r) => (-(n : Int), r)
  | '+' :: rest => (number? rest.length rest).map fun (n, r) => ((n : Int), r)
  | _ => (number? 4 cs).map fun (n, r) => ((n : Int), r)

/-- Two-digit number in a range, white space before it allowed. -/
def field? (low high : Nat) (cs : List Char) : Option (Nat × List Char) := do
  let (n, rest) ← number? 2 (skipBlank cs)
  if low ≤ n ∧ n ≤ high then some (n, rest) else none

/-- Nanoseconds after a point; digits past the ninth are dropped. -/
def fraction? (cs : List Char) : Option (Nat × List Char) :=
  match cs with
  | '.' :: rest =>
    let digits := rest.takeWhile Char.isDigit
    if digits.isEmpty then none
    else
      let nine := (digits ++ List.replicate 9 '0').take 9
      some (nine.foldl (fun n c => n * 10 + (c.toNat - '0'.toNat)) 0, rest.drop digits.length)
  | _ => some (0, cs)

/-- Exactly two digits. -/
def twoDigits? : List Char → Option (Nat × List Char)
  | a :: b :: rest => do
    let x ← digit? a
    let y ← digit? b
    some (x * 10 + y, rest)
  | _ => none

/-- The offset from UTC in seconds: `Z`, `UTC`, or a sign, hours and minutes. -/
def offset? (cs : List Char) : Option (Int × List Char) :=
  if (cs.take 3).map Char.toUpper = ['U', 'T', 'C'] then some (0, cs.drop 3)
  else
    match cs with
    | c :: rest =>
      if c = 'Z' ∨ c = 'z' then some (0, rest)
      else if c = '+' ∨ c = '-' ∨ c.toNat = 0x2212 then do
        let (hours, rest) ← twoDigits? rest
        let rest := rest.dropWhile fun c => c == ':' || Text.isBlank c
        let (minutes, rest) ← twoDigits? rest
        if 60 ≤ minutes then none
        else
          let seconds : Int := (hours * 3600 + minutes * 60 : Nat)
          some (if c = '+' then seconds else -seconds, rest)
      else none
    | [] => none

/-- The first and the last year of a moment. -/
def years : Int × Int := (-262143, 262142)

/-- Whether a year is neither too early nor too late. -/
def hasYear (year : Int) : Bool := years.1 ≤ year && year ≤ years.2

/-- Reads a moment. Its year is in bounds both where it is told and in UTC. -/
def ofChars? (cs : List Char) : Option Moment := do
  let (year, cs) ← year? (skipBlank cs)
  let cs ← expect? '-' (skipBlank cs)
  let (month, cs) ← field? 1 12 cs
  let cs ← expect? '-' (skipBlank cs)
  let (day, cs) ← field? 1 31 cs
  let cs ← match cs with
    | c :: rest => if c = 't' ∨ c = 'T' ∨ c = ' ' then some rest else none
    | [] => none
  let (hour, cs) ← field? 0 23 cs
  let cs ← expect? ':' (skipBlank cs)
  let (minute, cs) ← field? 0 59 cs
  let cs ← expect? ':' (skipBlank cs)
  let (second, cs) ← field? 0 60 cs
  let (nanos, cs) ← fraction? cs
  let (offset, cs) ← offset? (skipBlank cs)
  if ¬ (skipBlank cs).isEmpty then none
  else if !hasYear year || daysOfMonth year month < day then none
  else if 86400 ≤ offset.natAbs then none
  else
    let leap := if second = 60 then 1 else 0
    let seconds := daysOfDate year month day * 86400
      + (hour * 3600 + minute * 60 + (second - leap) : Nat) - offset
    if hasYear (dateOfDays (seconds.fdiv 86400)).1 then
      some ⟨seconds, nanos + leap * Span.perSecond⟩
    else none

/-- Reads a moment from RFC 3339 text. -/
def ofText? (s : String) : Option Moment := ofChars? s.toList

end Moment

end TestFleet.Time
