import TestFleet.Datum
import TestFleet.Text.Blank
import TestFleet.Time.Moment
/-!
# Dates and times

A date, a time of day, or both with or without an offset from UTC. In data, a date or time is a
table with one reserved name, under which its text stands; such a table may also be written out,
with somewhat looser rules for the text. The text is always written anew, so that equal dates and times
have equal texts.
-/
namespace TestFleet.Toml

/-- Where a date or time is written. -/
inductive DateTimePlace where
  /-- Bare in a document. -/
  | document
  /-- As a text under the reserved name. -/
  | text
  deriving DecidableEq, Repr

/-- The last hour of a day. -/
def DateTimePlace.lastHour : DateTimePlace → Nat
  | .document => 23
  | .text => 24

/-- The greatest numbers of hours and minutes of an offset. -/
def DateTimePlace.offsetParts : DateTimePlace → Nat × Nat
  | .document => (23, 59)
  | .text => (99, 99)

/-- So many decimal digits. -/
def decimal? (count : Nat) (cs : List Char) : Option (Nat × List Char) :=
  let ds := cs.take count
  if ds.length = count ∧ ds.all Char.isDigit then
    some (ds.foldl (fun n c => n * 10 + (c.toNat - '0'.toNat)) 0, cs.drop count)
  else none

/-- The rest after one given character. -/
def char? (c : Char) : List Char → Option (List Char)
  | [] => none
  | d :: rest => if c = d then some rest else none

/-- A date, as text. -/
def date? (cs : List Char) : Option (String × List Char) := do
  let (year, rest) ← decimal? 4 cs
  let rest ← char? '-' rest
  let (month, rest) ← decimal? 2 rest
  let rest ← char? '-' rest
  let (day, rest) ← decimal? 2 rest
  if 1 ≤ month ∧ month ≤ 12 ∧ 1 ≤ day ∧ day ≤ Time.Moment.daysOfMonth year month then
    some (Text.padZeros 4 year ++ "-" ++ Text.padZeros 2 month ++ "-" ++ Text.padZeros 2 day, rest)
  else none

/-- Decimals of a second as text, at most nine and without zeros at the end. -/
def secondFraction? (cs : List Char) : Option (String × List Char) :=
  match cs with
  | '.' :: rest =>
    let ds := rest.takeWhile Char.isDigit
    if ds.isEmpty then none
    else
      let kept := Text.dropWhileEnd (· == '0') (ds.take 9)
      some (if kept.isEmpty then "" else "." ++ String.ofList kept, rest.drop ds.length)
  | _ => some ("", cs)

/-- A time of day, as text. -/
def time? (place : DateTimePlace) (cs : List Char) : Option (String × List Char) := do
  let (hour, rest) ← decimal? 2 cs
  let rest ← char? ':' rest
  let (minute, rest) ← decimal? 2 rest
  let rest ← char? ':' rest
  let (second, rest) ← decimal? 2 rest
  let (fraction, rest) ← secondFraction? rest
  if hour ≤ place.lastHour ∧ minute ≤ 59 ∧ second ≤ 60 then
    some (Text.padZeros 2 hour ++ ":" ++ Text.padZeros 2 minute ++ ":" ++ Text.padZeros 2 second
      ++ fraction, rest)
  else none

/-- The text of an offset of so many minutes. There is no negative zero. -/
def offsetText (negative : Bool) (minutes : Nat) : String :=
  (if negative && minutes != 0 then "-" else "+")
    ++ Text.padZeros 2 (minutes / 60) ++ ":" ++ Text.padZeros 2 (minutes % 60)

/-- An offset from UTC as text, or nothing; a day at most. -/
def offset? (place : DateTimePlace) (cs : List Char) : Option (String × List Char) :=
  match cs with
  | c :: rest =>
    if c = 'Z' ∨ c = 'z' then some ("Z", rest)
    else if c = '+' ∨ c = '-' then do
      let (hours, rest) ← decimal? 2 rest
      let rest ← char? ':' rest
      let (minutes, rest) ← decimal? 2 rest
      let total := hours * 60 + minutes
      if hours ≤ place.offsetParts.1 ∧ minutes ≤ place.offsetParts.2 ∧ total ≤ 1440 then
        some (offsetText (c == '-') total, rest)
      else none
    else some ("", cs)
  | [] => some ("", [])

/-- A date, a time of day, or both. -/
def dateTime? (place : DateTimePlace) (cs : List Char) : Option (String × List Char) :=
  match date? cs with
  | some (date, rest) =>
    match rest with
    | c :: after =>
      if c = 'T' ∨ c = 't' ∨ c = ' ' then
        match time? place after with
        | some (time, after) =>
          (offset? place after).map fun (offset, after) => (date ++ "T" ++ time ++ offset, after)
        | none => if c = ' ' then some (date, rest) else none
      else some (date, rest)
    | [] => some (date, [])
  | none => time? place cs

/-- The reserved name under which a date or time stands. -/
def dateTimeName : String := "$__toml_private_datetime"

/-- A date or time as a table. -/
def dateTimeTable (text : String) : Datum := .table [(dateTimeName, .text text)]

/-- The text of a date or time, written anew, if a whole text is one. -/
def dateTimeText? (s : String) : Option String :=
  match dateTime? .text s.toList with
  | some (text, []) => some text
  | _ => none

mutual

/-- A value in which dates and times are texts. -/
def spelled : Datum → Datum
  | .table [(n, .text s)] => if n = dateTimeName then .text s else .table [(n, .text s)]
  | .list items => .list (spelledItems items)
  | .table entries => .table (spelledEntries entries)
  | d => d

/-- `spelled` of each item. -/
def spelledItems : List Datum → List Datum
  | [] => []
  | d :: rest => spelled d :: spelledItems rest

/-- `spelled` of each entry. -/
def spelledEntries : List (String × Datum) → List (String × Datum)
  | [] => []
  | (n, d) :: rest => (n, spelled d) :: spelledEntries rest

end

end TestFleet.Toml
