import TestFleet.Decimal.Notation
import TestFleet.Shell.Program.Call
import TestFleet.Shell.Program.Expression
import TestFleet.Shell.Printing
/-!
# Programs that reckon

`expr` finds the value of an expression whose parts are its arguments: texts, whole numbers of any
size, and signs between them. `seq` counts, in decimal fractions if asked for. `sleep` lets time
pass.
-/
namespace TestFleet.Shell.Program

/-! ## Expressions made of arguments -/

/-- Why an expression has no value, and the status that says so. -/
structure NoValue where
  status : Nat
  message : String

/-- The whole number that a text is. -/
def wholeNumber? (s : String) : Option Int :=
  match s.toList with
  | '-' :: ds => if !ds.isEmpty && ds.all Char.isDigit then s.toInt? else none
  | ds => if !ds.isEmpty && ds.all Char.isDigit then s.toInt? else none

/-- Whether a value counts as false: an empty text, and zeros. -/
def isNull (s : String) : Bool :=
  match s.toList with
  | '-' :: ds => !ds.isEmpty && ds.all (· == '0')
  | ds => ds.all (· == '0')

/-- The length of a match of a basic expression at the start of a text, or what its first group
has matched. -/
def matchStart (text pattern : String) : Except NoValue String :=
  match Expression.ofText false pattern.toList with
  | .error f => .error ⟨2, f.message⟩
  | .ok (e, groups) =>
    let subject : Expression.Subject := ⟨text.toList.toArray, false, true⟩
    match e.matchAt? subject 0 with
    | some m =>
      if groups == 0 then .ok (toString m.finish)
      else
        match m.groups.lookup 1 with
        | some (i, j) => .ok (String.ofList (subject.chars.extract i j).toList)
        | none => .ok ""
    | none => .ok (if groups == 0 then "0" else "")

/-- Two values as whole numbers. -/
def bothNumbers (a b : String) : Except NoValue (Int × Int) :=
  match wholeNumber? a, wholeNumber? b with
  | some m, some n => .ok (m, n)
  | _, _ => .error ⟨2, "non-integer argument"⟩

/-- Whether two values compare as a sign says: as numbers if both are, as texts if not. -/
def comparison? (op : String) : Option (Ordering → Bool) :=
  match op with
  | "<" => some (· == .lt)
  | "<=" => some (· != .gt)
  | "=" | "==" => some (· == .eq)
  | "!=" => some (· != .eq)
  | ">=" => some (· != .lt)
  | ">" => some (· == .gt)
  | _ => none

/-- How two values stand to each other. -/
def valueOrder (a b : String) : Ordering :=
  match wholeNumber? a, wholeNumber? b with
  | some m, some n => compare m n
  | _, _ => compare a b

/-- What reading a part of an expression gives: its value, and what is left. -/
abbrev Partly := Except NoValue (String × List String)

/-- Takes together values with signs between them that bind alike, from the left. -/
def chained (next : List String → Partly)
    (join : String → Option (String → String → Except NoValue String)) :
    Nat → String → List String → Partly
  | 0, a, rest => .ok (a, rest)
  | fuel + 1, a, rest =>
    match rest with
    | [] => .ok (a, rest)
    | op :: more =>
      match join op with
      | none => .ok (a, rest)
      | some f => do
        let (b, rest) ← next more
        chained next join fuel (← f a b) rest

mutual

/-- Values with `|` between them: the first that is not null. What cannot count is not reckoned. -/
def anyOf (all : List String) (live : Bool) : Nat → List String → Partly
  | 0, _ => .error ⟨2, "syntax error"⟩
  | fuel + 1, args => do
    let (a, rest) ← allOf all live fuel args
    anyAfter all live fuel a rest

/-- The same, behind a first value. -/
def anyAfter (all : List String) (live : Bool) : Nat → String → List String → Partly
  | 0, _, _ => .error ⟨2, "syntax error"⟩
  | fuel + 1, a, rest =>
    match rest with
    | "|" :: more => do
      let (b, rest) ← allOf all (live && isNull a) fuel more
      anyAfter all live fuel (if !isNull a then a else if isNull b then "0" else b) rest
    | _ => .ok (a, rest)

/-- Values with `&` between them: the first if none is null. -/
def allOf (all : List String) (live : Bool) : Nat → List String → Partly
  | 0, _ => .error ⟨2, "syntax error"⟩
  | fuel + 1, args => do
    let (a, rest) ← compared all live fuel args
    allAfter all live fuel a rest

/-- The same, behind a first value. -/
def allAfter (all : List String) (live : Bool) : Nat → String → List String → Partly
  | 0, _, _ => .error ⟨2, "syntax error"⟩
  | fuel + 1, a, rest =>
    match rest with
    | "&" :: more => do
      let (b, rest) ← compared all (live && !isNull a) fuel more
      allAfter all live fuel (if isNull a || isNull b then "0" else a) rest
    | _ => .ok (a, rest)

/-- Values compared. -/
def compared (all : List String) (live : Bool) : Nat → List String → Partly
  | 0, _ => .error ⟨2, "syntax error"⟩
  | fuel + 1, args => do
    let (a, rest) ← summed all live fuel args
    chained (summed all live fuel) (fun op => (comparison? op).map fun f a b =>
      .ok (if f (valueOrder a b) then "1" else "0")) args.length a rest

/-- Values added and subtracted. -/
def summed (all : List String) (live : Bool) : Nat → List String → Partly
  | 0, _ => .error ⟨2, "syntax error"⟩
  | fuel + 1, args => do
    let (a, rest) ← multiplied all live fuel args
    chained (multiplied all live fuel) (fun op =>
      let reckon (f : Int → Int → Int) : Option (String → String → Except NoValue String) :=
        some fun a b => if !live then .ok a else do
          let (m, n) ← bothNumbers a b
          .ok (toString (f m n))
      match op with
      | "+" => reckon (· + ·)
      | "-" => reckon (· - ·)
      | _ => none) args.length a rest

/-- Values multiplied and divided. -/
def multiplied (all : List String) (live : Bool) : Nat → List String → Partly
  | 0, _ => .error ⟨2, "syntax error"⟩
  | fuel + 1, args => do
    let (a, rest) ← matched all live fuel args
    chained (matched all live fuel) (fun op =>
      let reckon (divides : Bool) (f : Int → Int → Int) :
          Option (String → String → Except NoValue String) :=
        some fun a b => if !live then .ok a else do
          let (m, n) ← bothNumbers a b
          if divides && n == 0 then .error ⟨2, "division by zero"⟩ else .ok (toString (f m n))
      match op with
      | "*" => reckon false (· * ·)
      | "/" => reckon true Int.tdiv
      | "%" => reckon true Int.tmod
      | _ => none) args.length a rest

/-- Values matched with expressions. -/
def matched (all : List String) (live : Bool) : Nat → List String → Partly
  | 0, _ => .error ⟨2, "syntax error"⟩
  | fuel + 1, args => do
    let (a, rest) ← called all live fuel args
    chained (called all live fuel) (fun op =>
      if op == ":" then some fun a b => if live then matchStart a b else .ok a else none)
      args.length a rest

/-- A value, or what a word says of the values behind it. -/
def called (all : List String) (live : Bool) : Nat → List String → Partly
  | 0, _ => .error ⟨2, "syntax error"⟩
  | fuel + 1, args =>
    let missing (rest : List String) : NoValue :=
      ⟨2, "syntax error: missing argument after "
        ++ named ((all.take (all.length - rest.length)).getLastD "")⟩
    match args with
    | [] => .error (missing [])
    | "+" :: rest =>
      match rest with
      | [] => .error (missing [])
      | v :: rest => .ok (v, rest)
    | "length" :: rest => do
      let (v, rest) ← called all live fuel rest
      .ok (toString v.length, rest)
    | "match" :: rest => do
      let (v, rest) ← called all live fuel rest
      let (p, rest) ← called all live fuel rest
      .ok (← if live then matchStart v p else .ok v, rest)
    | "index" :: rest => do
      let (v, rest) ← called all live fuel rest
      let (cs, rest) ← called all live fuel rest
      .ok (toString ((v.toList.findIdx? cs.toList.contains).elim 0 (· + 1)), rest)
    | "substr" :: rest => do
      let (v, rest) ← called all live fuel rest
      let (from_, rest) ← called all live fuel rest
      let (size, rest) ← called all live fuel rest
      match wholeNumber? from_, wholeNumber? size with
      | some i, some n =>
        .ok (if i ≤ 0 || n ≤ 0 then ""
          else String.ofList ((v.toList.drop (i.toNat - 1)).take n.toNat), rest)
      | _, _ => .ok ("", rest)
    | "(" :: rest => do
      let (v, rest) ← anyOf all live fuel rest
      match rest with
      | ")" :: rest => .ok (v, rest)
      | [] => .error ⟨2, "syntax error: expecting ')' after " ++ named (all.getLastD "")⟩
      | w :: _ => .error ⟨2, "syntax error: expecting ')' instead of " ++ named w⟩
    | ")" :: _ => .error ⟨2, "syntax error: unexpected ')'"⟩
    | v :: rest => .ok (v, rest)

end

/-- The value of an expression. -/
def valueOf (args : List String) : Except NoValue String := do
  let (v, rest) ← anyOf args true (16 * args.length + 16) args
  match rest with
  | [] => .ok v
  | w :: _ => .error ⟨2, "syntax error: unexpected argument " ++ named w⟩

/-- Writes the value of an expression; a null value makes the status 1. -/
def expr (args : List String) : Doing Nat := do
  let args := if args.head? == some "--" then args.drop 1 else args
  if args.isEmpty then misused 2 "missing operand"
  match valueOf args with
  | .error e => fail e.status e.message
  | .ok v =>
    say 1 (v ++ "\n")
    pure (if isNull v then 1 else 0)

/-! ## Counting and waiting -/

/-- The whole number behind the letter of an exponent. -/
def exponent? (cs : List Char) : Option Int :=
  let (negative, ds) : Bool × List Char :=
    match cs with
    | '-' :: rest => (true, rest)
    | '+' :: rest => (false, rest)
    | cs => (false, cs)
  if ds.isEmpty || !ds.all Char.isDigit || 4 < ds.length then none
  else (wholeNumber? (String.ofList ds)).map fun n => if negative then -n else n

/-- A decimal number: its digits as a whole number, and how many of them stand after the point once
its exponent, if it has one, is reckoned in. -/
def fraction? (s : String) : Option (Int × Nat) :=
  let (negative, cs) : Bool × List Char :=
    match s.toList with
    | '-' :: rest => (true, rest)
    | '+' :: rest => (false, rest)
    | cs => (false, cs)
  let isMark (c : Char) : Bool := c == 'e' || c == 'E'
  let exponent : Option Int :=
    if cs.any isMark then exponent? ((cs.dropWhile (!isMark ·)).drop 1) else some 0
  let cs := cs.takeWhile (!isMark ·)
  let whole := cs.takeWhile Char.isDigit
  let decimals : Option (List Char) :=
    match cs.dropWhile Char.isDigit with
    | [] => some []
    | '.' :: ds => if ds.all Char.isDigit then some ds else none
    | _ => none
  match decimals, exponent with
  | some ds, some e =>
    if whole.isEmpty && ds.isEmpty then none
    else
      let n := (whole ++ ds).foldl (fun n c => n * 10 + (c.toNat - '0'.toNat)) 0
      let n := n * Nat.pow 10 (e - ds.length).toNat
      some (if negative then -(n : Int) else n, (ds.length - e).toNat)
  | _, _ => none

/-- A decimal number with so many places. -/
def fractionText (places : Nat) (n : Int) : String :=
  let digits := Text.padZeros (places + 1) n.natAbs
  let cut := digits.length - places
  (if n < 0 then "-" else "") ++ (digits.take cut).toString
    ++ (if places == 0 then "" else "." ++ (digits.drop cut).toString)

/-- Numbers from a first one to a last one. -/
def numbersBetween (first step last : Int) : List Int :=
  let steps : Int :=
    if step > 0 && first ≤ last then (last - first) / step + 1
    else if step < 0 && last ≤ first then (first - last) / (-step) + 1
    else 0
  (List.range steps.toNat).map fun (i : Nat) => first + step * (i : Int)

/-- What is wrong with a format for one number, if anything is. -/
def formatFault? (format : String) : Option String :=
  let rec next : List Char → Option (List Char)
    | [] => none
    | '%' :: '%' :: rest => next rest
    | '%' :: rest => some rest
    | _ :: rest => next rest
  let blamed (why : String) : Option String := some ("format " ++ named format ++ why)
  match next format.toList with
  | none => blamed " has no % directive"
  | some cs =>
    let cs := cs.dropWhile ("-+#0 '".toList.contains ·)
    let cs := cs.dropWhile Char.isDigit
    let cs := match cs with
      | '.' :: rest => rest.dropWhile Char.isDigit
      | cs => cs
    let cs := match cs with
      | 'L' :: rest => rest
      | cs => cs
    match cs with
    | [] => blamed " ends in %"
    | c :: rest =>
      if !"efgaEFGA".toList.contains c then
        blamed (" has unknown %" ++ String.singleton c ++ " directive")
      else if (next rest).isSome then blamed " has too many % directives"
      else none

/-- A number in a format. -/
def inFormat (format number : String) : String :=
  let plain := format.toList.flatMap fun c =>
    if c == '\\' then ['\\', '\\'] else if c == '\'' then [] else [c]
  String.ofList (Printing.printf (String.ofList plain) [number]).written

/-- Counts. -/
def seq (args : List String) : Doing Nat := do
  let isNumber (a : String) : Bool := (fraction? a).isSome
  let front := args.takeWhile fun a => !isNumber a
  let g ← given 1 false "s=/separator w/equal-width f=/format" front
  let values := g.operands ++ args.drop front.length
  let separator := (g.value? "s").getD "\n"
  if values.isEmpty then misused 1 "missing operand"
  if let _ :: _ :: _ :: extra :: _ := values then misused 1 ("extra operand " ++ named extra)
  if let some bad := values.find? (!isNumber ·) then
    misused 1 ("invalid floating point argument: " ++ named bad)
  let numbers := values.filterMap fraction?
  let places := (numbers.map (·.2)).foldl max 0
  let scaled := numbers.map fun (n, p) => n * (Nat.pow 10 (places - p) : Nat)
  let one : Int := (Nat.pow 10 places : Nat)
  let (first, step, last) : Int × Int × Int :=
    match scaled with
    | [a, s, b] => (a, s, b)
    | [a, b] => (a, one, b)
    | [b] => (one, one, b)
    | _ => (0, one, 0)
  if step == 0 then misused 1 ("invalid Zero increment value: " ++ named (values[1]?.getD ""))
  if let some format := g.value? "f" then
    if let some fault := formatFault? format then return (← fail 1 fault)
    if g.has "w" then
      misused 1 "format string may not be specified when printing equal width strings"
  let texts := (numbersBetween first step last).map (fractionText places)
  let width := (texts.map (·.length)).foldl max 0
  let padded (t : String) : String :=
    if let some format := g.value? "f" then inFormat format t
    else if !g.has "w" then t
    else
      let (sign, digits) : String × String :=
        if t.startsWith "-" then ("-", (t.drop 1).toString) else ("", t)
      sign ++ String.ofList (List.replicate (width - t.length) '0') ++ digits
  if !texts.isEmpty then say 1 (separator.intercalate (texts.map padded) ++ "\n")
  pure 0

/-- Nanoseconds of a decimal number of seconds with a unit. -/
def nanos? (arg : String) : Option Nat :=
  let cs := arg.toList
  if arg == "infinity" || arg == "inf" then some never
  else
    let (unit, cs) : Nat × List Char :=
      match cs.getLast? with
      | some 's' => (1, cs.dropLast)
      | some 'm' => (60, cs.dropLast)
      | some 'h' => (3600, cs.dropLast)
      | some 'd' => (86400, cs.dropLast)
      | _ => (1, cs)
    (fraction? (String.ofList cs)).bind fun (n, places) =>
      if n < 0 then none else some (n.toNat * unit * Nat.pow 10 9 / Nat.pow 10 places)

/-- Lets time pass. -/
def sleep (args : List String) : Doing Nat := do
  let g ← given 1 false "" args
  if g.operands.isEmpty then misused 1 "missing operand"
  let bad := g.operands.filter fun a => (nanos? a).isNone
  for b in bad.dropLast do blame ("invalid time interval " ++ named b)
  if let some b := bad.getLast? then misused 1 ("invalid time interval " ++ named b)
  pass ((g.operands.filterMap nanos?).foldl (· + ·) 0)
  pure 0

end TestFleet.Shell.Program
