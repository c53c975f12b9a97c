import TestFleet.Shell.Program.Call
import TestFleet.Time.Moment
/-!
# Dates that people write

Times of day are nanoseconds after 1970 began, in UTC. `timeOf?` reads a time from words such as
`2001-02-03 04:05`, `@86400`, `yesterday` or `3 days ago`; `formatted` writes one by a format with
`%` before each part.
-/
namespace TestFleet.Shell.Program

open Time (Moment)

/-- Nanoseconds of a second. -/
def second : Int := 1000000000

/-- Nanoseconds of a day. -/
def day : Int := 86400 * second

/-- The names of the months. -/
def monthNames : List String :=
  ["January", "February", "March", "April", "May", "June", "July", "August", "September",
    "October", "November", "December"]

/-- The names of the days of a week. -/
def dayNames : List String :=
  ["Sunday", "Monday", "Tuesday", "Wednesday", "Thursday", "Friday", "Saturday"]

/-! ## Writing -/

/-- A date and a time of day. -/
structure Civil where
  year : Int
  month : Nat
  date : Nat
  hour : Nat
  minute : Nat
  second : Nat
  nanos : Nat
  /-- The day of the week, Sunday as 0. -/
  weekday : Nat
  /-- The day of the year, the first as 1. -/
  yearDay : Nat
  deriving Repr, Inhabited

/-- The date and the time of day at a time. -/
def Civil.ofTime (t : Int) : Civil :=
  let days := t.fdiv day
  let rest := (t - days * day).toNat
  let (y, m, d) := Moment.dateOfDays days
  let seconds := rest / 1000000000
  ⟨y, m, d, seconds / 3600, seconds / 60 % 60, seconds % 60, rest % 1000000000,
    ((days + 4) % 7).toNat, (days - Moment.daysOfDate y 1 1).toNat + 1⟩

/-- The hour on a clock with twelve of them. -/
def Civil.twelve (c : Civil) : Nat := (c.hour + 11) % 12 + 1

/-- A time as a format says. -/
def formatted : Nat → Int → List Char → String
  | 0, _, _ => ""
  | fuel + 1, t, cs =>
    let c := Civil.ofTime t
    let two (n : Nat) : String := Text.padZeros 2 n
    let name (names : List String) (i : Nat) : String := names[i]?.getD ""
    let short (s : String) : String := (s.take 3).toString
    let again (format : String) : String := formatted fuel t format.toList
    let more (s : String) (rest : List Char) : String := s ++ formatted fuel t rest
    match cs with
    | [] => ""
    | ['%'] => "%"
    | '%' :: '-' :: k :: rest =>
      let s := formatted fuel t ['%', k]
      let kept := s.toList.dropWhile fun c => c == '0' || c == ' '
      more (if kept.isEmpty && !s.isEmpty then "0" else String.ofList kept) rest
    | '%' :: 'N' :: rest => more (Text.padZeros 9 c.nanos) rest
    | '%' :: k :: rest =>
      if k.isDigit && rest.head? == some 'N' then
        let n := k.toNat - '0'.toNat
        more ((Text.padZeros 9 c.nanos).take n).toString (rest.drop 1)
      else
        let s : String :=
          match k with
          | '%' => "%"
          | 'n' => "\n"
          | 't' => "\t"
          | 'Y' => toString c.year
          | 'C' => two (c.year / 100).toNat
          | 'y' | 'g' => two (c.year % 100).toNat
          | 'm' => two c.month
          | 'd' => two c.date
          | 'e' => padLeft 2 (toString c.date)
          | 'H' => two c.hour
          | 'I' => two c.twelve
          | 'k' => padLeft 2 (toString c.hour)
          | 'l' => padLeft 2 (toString c.twelve)
          | 'M' => two c.minute
          | 'S' => two c.second
          | 's' => toString (t.fdiv second)
          | 'j' => Text.padZeros 3 c.yearDay
          | 'u' => toString (if c.weekday == 0 then 7 else c.weekday)
          | 'w' => toString c.weekday
          | 'a' => short (name dayNames c.weekday)
          | 'A' => name dayNames c.weekday
          | 'b' | 'h' => short (name monthNames (c.month - 1))
          | 'B' => name monthNames (c.month - 1)
          | 'p' => if c.hour < 12 then "AM" else "PM"
          | 'P' => if c.hour < 12 then "am" else "pm"
          | 'Z' => "UTC"
          | 'z' => "+0000"
          | 'q' => toString ((c.month + 2) / 3)
          | 'F' => again "%Y-%m-%d"
          | 'T' | 'X' => again "%H:%M:%S"
          | 'R' => again "%H:%M"
          | 'r' => again "%I:%M:%S %p"
          | 'D' | 'x' => again "%m/%d/%y"
          | 'c' => again "%a %b %e %H:%M:%S %Y"
          | k => String.ofList ['%', k]
        more s rest
    | k :: rest => more (String.singleton k) rest

/-- A time as a format says. -/
def timeText (t : Int) (format : String) : String :=
  formatted (2 * format.length + 40) t format.toList

/-! ## Reading -/

/-- What has been read of a date: the date and the time of day if they were given, an offset from
UTC in minutes, and what is to be added. -/
structure Reading where
  date : Option (Int × Nat × Nat)
  time : Option Int
  offset : Int
  months : Int
  nanos : Int
  /-- Whether the last thing was an amount, which `ago` turns round. -/
  amounts : Bool
  exact : Option Int
  deriving Inhabited

/-- The number that digits write. -/
def digitsValue (ds : List Char) : Nat := ds.foldl (fun n c => n * 10 + (c.toNat - '0'.toNat)) 0

/-- A number of at most so many digits, and nothing else. -/
def plainNumber? (s : String) : Option Nat :=
  if !s.isEmpty && s.toList.all Char.isDigit then some (digitsValue s.toList) else none

/-- Nanoseconds of a number of seconds with a fraction. -/
def secondsOf? (s : String) : Option Int :=
  match Text.splitOnChar '.' s with
  | [whole] => (plainNumber? whole).map fun n => (n : Int) * second
  | [whole, decimals] =>
    match plainNumber? whole, plainNumber? decimals with
    | some n, some _ =>
      let nanos := digitsValue ((decimals.toList ++ List.replicate 9 '0').take 9)
      some ((n : Int) * second + nanos)
    | _, _ => none
  | _ => none

/-- A date that is one. -/
def dateOf? (y : Int) (m d : Nat) : Option (Int × Nat × Nat) :=
  if 1 ≤ m && m ≤ 12 && 1 ≤ d && d ≤ Moment.daysOfMonth y m then some (y, m, d) else none

/-- A date in figures. -/
def dateWord? (w : String) : Option (Int × Nat × Nat) :=
  match (Text.splitOnChar '-' w).map plainNumber?, (Text.splitOnChar '/' w).map plainNumber? with
  | [some y, some m, some d], _ => dateOf? y m d
  | _, [some m, some d, some y] => dateOf? y m d
  | _, _ =>
    match plainNumber? w with
    | some n => if w.length == 8 then dateOf? (n / 10000 : Nat) (n / 100 % 100) (n % 100) else none
    | none => none

/-- A time of day in figures. -/
def timeWord? (w : String) : Option Int :=
  let hm (h m : String) (s : Int) : Option Int :=
    match plainNumber? h, plainNumber? m with
    | some h, some m =>
      if h < 24 && m < 60 && s < 60 * second then
          some (((h * 60 + m : Nat) : Int) * 60 * second + s)
      else none
    | _, _ => none
  match Text.splitOnChar ':' w with
  | [h, m] => hm h m 0
  | [h, m, s] => (secondsOf? s).bind (hm h m)
  | _ => none

/-- An offset from UTC in minutes. -/
def offsetWord? (w : String) : Option Int :=
  match w.toList with
  | sign :: rest =>
    let digits := rest.filter (· != ':')
    if (sign == '+' || sign == '-') && (digits.length == 4 || digits.length == 2)
        && digits.all Char.isDigit then
      let n := digitsValue digits
      let minutes : Int := if digits.length == 4 then n / 100 * 60 + n % 100 else n * 60
      some (if sign == '-' then -minutes else minutes)
    else none
  | [] => none

/-- The number of the month of a name. -/
def monthWord? (w : String) : Option Nat :=
  let w := (String.ofList (w.toList.filter fun c => c != '.' && c != ',')).toLower
  (monthNames.findIdx? fun m =>
    m.toLower == w || (m.toLower.take 3).toString == w).map (· + 1)

/-- An amount of time: months, or nanoseconds. -/
def unit? (w : String) : Option (Int × Int) :=
  let w := w.toLower
  let w := if w.endsWith "s" && 3 < w.length then (w.dropEnd 1).toString else w
  match w with
  | "sec" | "second" => some (0, second)
  | "min" | "minute" => some (0, 60 * second)
  | "hour" => some (0, 3600 * second)
  | "day" => some (0, day)
  | "week" => some (0, 7 * day)
  | "fortnight" => some (0, 14 * day)
  | "month" => some (1, 0)
  | "year" => some (12, 0)
  | _ => none

/-- A number that may have a sign. -/
def signedNumber? (w : String) : Option Int :=
  match w.toList with
  | '+' :: ds => (plainNumber? (String.ofList ds)).map fun n => (n : Int)
  | '-' :: ds => (plainNumber? (String.ofList ds)).map fun n => -(n : Int)
  | _ => (plainNumber? w).map fun n => (n : Int)

/-- What has been read with an amount added. -/
def Reading.adding (r : Reading) (n : Int) (unit : Int × Int) : Reading :=
  { r with months := r.months + n * unit.1, nanos := r.nanos + n * unit.2, amounts := true }

/-- Reads a date word by word. -/
def readWords : Nat → Reading → List String → Option Reading
  | 0, _, _ => none
  | _ + 1, r, [] => some r
  | fuel + 1, r, w :: rest =>
    let withDate (d : Option (Int × Nat × Nat)) (rest : List String) : Option Reading :=
      match d, r.date with
      | some d, none => readWords fuel { r with date := some d } rest
      | _, _ => none
    match w.toLower, rest with
    | "now", _ | "today", _ => readWords fuel r rest
    | "yesterday", _ => readWords fuel (r.adding (-1) (0, day)) rest
    | "tomorrow", _ => readWords fuel (r.adding 1 (0, day)) rest
    | "ago", _ =>
      if r.amounts then
        readWords fuel { r with months := -r.months, nanos := -r.nanos, amounts := false } rest
      else none
    | "next", u :: rest => (unit? u).bind fun u => readWords fuel (r.adding 1 u) rest
    | "last", u :: rest => (unit? u).bind fun u => readWords fuel (r.adding (-1) u) rest
    | "utc", _ | "z", _ | "gmt", _ =>
      if r.time.isSome || r.date.isSome then readWords fuel r rest else none
    | "am", _ | "pm", _ => none
    | "+", n :: u :: rest =>
      (plainNumber? n).bind fun n => (unit? u).bind fun u => readWords fuel (r.adding n u) rest
    | "-", n :: u :: rest =>
      (plainNumber? n).bind fun n => (unit? u).bind fun u => readWords fuel (r.adding (-n) u) rest
    | _, _ =>
      match w.toList with
      | '@' :: ds =>
        let (negative, ds) : Bool × List Char :=
          match ds with
          | '-' :: ds => (true, ds)
          | _ => (false, ds)
        match secondsOf? (String.ofList ds) with
        | some n => readWords fuel { r with exact := some (if negative then -n else n) } rest
        | none => none
      | _ =>
        match unit? w with
        | some u => readWords fuel (r.adding 1 u) rest
        | none =>
          match signedNumber? w, rest with
          | some n, u :: more =>
            match unit? u, monthWord? u, more with
            | some u, _, _ => readWords fuel (r.adding n u) more
            | none, some m, y :: more =>
              match plainNumber? y with
              | some y => withDate (dateOf? y m n.toNat) more
              | none => none
            | _, _, _ => inFigures fuel r w rest
          | _, _ =>
            match monthWord? w, rest with
            | some m, d :: y :: more =>
              let d := String.ofList (d.toList.filter (· != ','))
              match plainNumber? d, plainNumber? y with
              | some d, some y => withDate (dateOf? y m d) more
              | _, _ => none
            | _, _ => inFigures fuel r w rest
where
  /-- The same, where a date or a time in figures comes next. -/
  inFigures : Nat → Reading → String → List String → Option Reading
    | 0, _, _, _ => none
    | fuel + 1, r, w, rest =>
      match dateWord? w, timeWord? w with
      | some d, _ => if r.date.isNone then readWords fuel { r with date := some d } rest else none
      | none, some t =>
        if r.time.isSome then none
        else
          match rest.head?.bind offsetWord? with
          | some minutes =>
            readWords fuel { r with time := some t, offset := minutes } (rest.drop 1)
          | none => readWords fuel { r with time := some t } rest
      | none, none => none

/-- A text with the parts of a date in figures apart: a `T` between a date and a time, and an offset
behind it. -/
def spaced : Bool → List Char → List Char
  | _, [] => []
  | colon, c :: rest =>
    if (c == 'T' || c == 't') && (rest.head?.map Char.isDigit).getD false then
      ' ' :: spaced false rest
    else if (c == 'Z' || c == 'z') && colon && rest.isEmpty then [' ', 'Z']
    else if (c == '+' || c == '-') && colon then ' ' :: c :: spaced false rest
    else c :: spaced (c == ':' || colon && (c.isDigit || c == '.')) rest

/-- The time that a text tells of, seen from another time. -/
def timeOf? (now : Int) (text : String) : Option Int :=
  let isSpace (c : Char) : Bool := c == ' ' || c == '\t' || c == '\n'
  let words := ((Text.pieces isSpace (spaced false text.toList)).filter (!·.isEmpty)).map
    String.ofList
  match readWords (4 * words.length + 4) ⟨none, none, 0, 0, 0, false, none⟩ words with
  | none => none
  | some r =>
    match r.exact with
    | some t => if r.date.isNone && r.time.isNone then some (t + r.nanos) else none
    | none =>
      let base := Civil.ofTime now
      let (y, m, d) := r.date.getD (base.year, base.month, base.date)
      let total : Int := y * 12 + (m : Int) - 1 + r.months
      let days := Moment.daysOfDate (total.fdiv 12) (total.fmod 12 + 1).toNat 1 + (d : Int) - 1
      let given := r.date.isSome || r.time.isSome || words.isEmpty
      let time : Int := if given then r.time.getD 0 else now - now.fdiv day * day
      some (days * day + time + r.nanos - r.offset * 60 * second)

/-- The time that a stamp tells of: perhaps a year, then month, day, hour and minute of two digits
each, and perhaps a point and the second. -/
def stampTime? (now : Int) (stamp : String) : Option Int :=
  let (digits, seconds) : String × Option Nat :=
    match Text.splitOnChar '.' stamp with
    | [a] => (a, some 0)
    | [a, s] => (a, if s.length == 2 then plainNumber? s else none)
    | _ => ("", none)
  match plainNumber? digits, seconds with
  | some n, some s =>
    let pair (i : Nat) : Nat := n / Nat.pow 100 i % 100
    let year : Option Int :=
      match digits.length with
      | 8 => some (Civil.ofTime now).year
      | 10 => some (if pair 4 < 69 then 2000 + pair 4 else 1900 + pair 4 : Nat)
      | 12 => some (n / Nat.pow 10 8 : Nat)
      | _ => none
    year.bind fun y => (dateOf? y (pair 3) (pair 2)).bind fun (y, m, d) =>
      if pair 1 < 24 && pair 0 < 60 && s < 61 then
        some (Moment.daysOfDate y m d * day
          + (((pair 1 * 60 + pair 0) * 60 + s : Nat) : Int) * second)
      else none
  | _, _ => none

end TestFleet.Shell.Program
