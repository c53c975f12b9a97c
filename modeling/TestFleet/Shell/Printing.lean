import TestFleet.Decimal.Notation
import TestFleet.Shell.Arithmetic
/-!
# Printing in scripts

`echo` and `printf` write octets: an escape such as `\351` stands for one octet, whatever text it
makes. A format is used again for as long as there are arguments left. All texts are bytewise.
-/
namespace TestFleet.Shell.Printing

/-- The value of an octal digit. -/
def octal? (c : Char) : Option Nat := if '0' ≤ c ∧ c ≤ '7' then some (c.toNat - '0'.toNat) else none

/-- An octal number of at most so many digits. -/
def octalNumber : Nat → Nat → List Char → Nat × List Char
  | 0, n, cs => (n, cs)
  | _ + 1, n, [] => (n, [])
  | k + 1, n, c :: rest =>
    match octal? c with
    | some d => octalNumber k (n * 8 + d) rest
    | none => (n, c :: rest)

/-- The octet of a number, as a character. -/
def octet (n : Nat) : Char := Char.ofNat (n % 256)

/-- Escapes of one character. -/
def simpleEscape? (c : Char) : Option Char :=
  match c with
  | 'a' => some (octet 7)
  | 'b' => some (octet 8)
  | 'e' => some (octet 27)
  | 'f' => some (octet 12)
  | 'n' => some '\n'
  | 'r' => some '\r'
  | 't' => some '\t'
  | 'v' => some (octet 11)
  | '\\' => some '\\'
  | _ => none

/-- The character that an escape behind its backslash stands for, and the rest; a backslash if it
stands for none. -/
def escape (cs : List Char) : Char × List Char :=
  match cs with
  | [] => ('\\', [])
  | c :: rest =>
    match simpleEscape? c with
    | some o => (o, rest)
    | none =>
      if (octal? c).isSome then
        let (n, rest) := octalNumber 3 0 cs
        (octet n, rest)
      else ('\\', cs)

/-- Text with its escapes carried out; `\c` ends the text. Says whether the text went on to its
end. -/
def escaped : Nat → List Char → List Char × Bool
  | 0, _ => ([], true)
  | _ + 1, [] => ([], true)
  | fuel + 1, '\\' :: rest =>
    let more (c : Char) (rest : List Char) : List Char × Bool :=
      let (os, goesOn) := escaped fuel rest
      (c :: os, goesOn)
    match rest with
    | 'c' :: _ => ([], false)
    | '0' :: d :: _ =>
      let (c, rest) := escape (if (octal? d).isSome then rest.drop 1 else rest)
      more c rest
    | _ =>
      let (c, rest) := escape rest
      more c rest
  | fuel + 1, c :: rest =>
    let (os, goesOn) := escaped fuel rest
    (c :: os, goesOn)

/-- Words with their escapes carried out, blanks between them, and the end of the line. -/
def echoWords (newline : Bool) : List String → List Char
  | [] => if newline then ['\n'] else []
  | w :: rest =>
    let (cs, goesOn) := escaped (w.length + 1) w.toList
    if !goesOn then cs
    else if rest.isEmpty then cs ++ (if newline then ['\n'] else [])
    else cs ++ ' ' :: echoWords newline rest

/-- What `echo` writes; escapes are carried out if `escapes`. -/
def echo (escapes : Bool) (args : List String) : String :=
  let (newline, words) : Bool × List String :=
    match args with
    | "-n" :: rest => (false, rest)
    | _ => (true, args)
  if escapes then String.ofList (echoWords newline words)
  else " ".intercalate words ++ (if newline then "\n" else "")

/-- A conversion in a format. -/
structure Conversion where
  left : Bool
  zero : Bool
  plus : Bool
  blank : Bool
  alternate : Bool
  width : Nat
  precision : Option Nat
  letter : Char

/-- A decimal number at the front of a text. -/
def numberAt (cs : List Char) : Nat × List Char :=
  ((cs.takeWhile Char.isDigit).foldl (fun n c => n * 10 + (c.toNat - '0'.toNat)) 0,
    cs.dropWhile Char.isDigit)

/-- Text padded to the width of a conversion. -/
def Conversion.pad (k : Conversion) (cs : List Char) : List Char :=
  let gap := List.replicate (k.width - cs.length) ' '
  if k.left then cs ++ gap else gap ++ cs

/-- Text with a sign, padded to the width of a conversion with zeros or blanks. -/
def Conversion.padNumber (k : Conversion) (zeros : Bool) (sign digits : List Char) : List Char :=
  let gap := k.width - (sign.length + digits.length)
  k.pad (sign ++ (if zeros && k.zero && !k.left then List.replicate gap '0' else []) ++ digits)

/-- What is wrong with an argument that should be a number. -/
inductive NumberFault where
  | none_
  | partly
  | outOfRange
  deriving DecidableEq, Repr

/-- The fault as a shell says it. -/
def NumberFault.message (arg : String) : NumberFault → String
  | .none_ => arg ++ ": expected numeric value"
  | .partly => arg ++ ": not completely converted"
  | .outOfRange => arg ++ ": Numerical result out of range"

/-- The whole number that an argument is, of 64 bits with a sign or without, and what is wrong with
it. The number behind a quote is that of the octet there. -/
def integerOf (signed : Bool) (arg : String) : Int × Option NumberFault :=
  match arg.toList with
  | '\'' :: rest | '"' :: rest => ((rest.head?.map fun c => (c.toNat : Int)).getD 0, none)
  | whole =>
    let cs := whole.dropWhile Arithmetic.isSpace
    let (negative, ds) : Bool × List Char :=
      match cs with
      | '-' :: r => (true, r)
      | '+' :: r => (false, r)
      | r => (false, r)
    if !((ds.head?.map Char.isDigit).getD false) then
      (0, if arg.isEmpty then none else some .none_)
    else
      let (n, rest) := Arithmetic.numberAt ds
      let top : Int := Nat.pow 2 64 - 1
      let (value, fits) : Int × Bool :=
        if signed then
          let n := if negative then -n else n
          (Arithmetic.saturated n, Arithmetic.saturated n == n)
        else if n ≤ top then (if negative then -n else n, true)
        else (top, false)
      (value, if !rest.isEmpty then some .partly else if fits then none else some .outOfRange)

/-- Digits of a number in a base. -/
def digits (base : Nat) (upper : Bool) (n : Nat) : List Char :=
  let ds := Nat.toDigits base n
  if upper then ds.map Char.toUpper else ds

/-- A whole number as a conversion writes it. -/
def Conversion.integer (k : Conversion) (n : Int) : List Char :=
  let wrapped : Nat := (n % Nat.pow 2 64).toNat
  let (sign, ds) : String × List Char :=
    match k.letter with
    | 'x' => (if k.alternate && wrapped != 0 then "0x" else "", digits 16 false wrapped)
    | 'X' => (if k.alternate && wrapped != 0 then "0X" else "", digits 16 true wrapped)
    | 'o' =>
      let ds := digits 8 false wrapped
      ("", if k.alternate && ds.head? != some '0' then '0' :: ds else ds)
    | 'u' => ("", digits 10 false wrapped)
    | _ =>
      (if n < 0 then "-" else if k.plus then "+" else if k.blank then " " else "",
        digits 10 false n.natAbs)
  let ds := if wrapped == 0 && k.precision == some 0 then [] else ds
  let ds := List.replicate (k.precision.getD 1 - ds.length) '0' ++ ds
  k.padNumber k.precision.isNone sign.toList ds

/-- The value of a hexadecimal digit. -/
def hexDigit? (c : Char) : Option Nat :=
  if c.isDigit then some (c.toNat - '0'.toNat)
  else
    let l := c.toLower
    if 'a' ≤ l ∧ l ≤ 'f' then some (l.toNat - 'a'.toNat + 10) else none

/-- The hexadecimal floating-point number at the front of a text, and the rest. -/
def hexFloatAt? (cs : List Char) : Option (Float × List Char) :=
  match cs with
  | '0' :: x :: more =>
    let isHex (c : Char) : Bool := (hexDigit? c).isSome
    let whole := more.takeWhile isHex
    let (fraction, rest) : List Char × List Char :=
      match more.dropWhile isHex with
      | '.' :: r => (r.takeWhile isHex, r.dropWhile isHex)
      | r => ([], r)
    if (x != 'x' && x != 'X') || (whole.isEmpty && fraction.isEmpty) then none
    else
      let signed (ds : List Char) : Option (Bool × List Char) :=
        let (negative, ds) : Bool × List Char :=
          match ds with
          | '-' :: r => (true, r)
          | '+' :: r => (false, r)
          | r => (false, r)
        if (ds.head?.map Char.isDigit).getD false then some (negative, ds) else none
      let (exponent, rest) : Int × List Char :=
        match rest with
        | p :: ds =>
          match (if p == 'p' || p == 'P' then signed ds else none) with
          | some (negative, ds) =>
            let n := min (numberAt ds).1 100000
            (if negative then -(n : Int) else n, (numberAt ds).2)
          | none => (0, rest)
        | [] => (0, rest)
      let m := (whole ++ fraction).foldl (fun n c => n * 16 + (hexDigit? c).getD 0) 0
      some (Float.scaleB (Float.ofNat m) (exponent - 4 * fraction.length), rest)
  | _ => none

/-- The floating-point number at the front of a text, and the rest. -/
def floatAt? (cs : List Char) : Option (Float × List Char) :=
  let whole := cs.takeWhile Char.isDigit
  let (fraction, rest) : List Char × List Char :=
    match cs.dropWhile Char.isDigit with
    | '.' :: r => (r.takeWhile Char.isDigit, r.dropWhile Char.isDigit)
    | r => ([], r)
  let lower := (cs.take 8).map Char.toLower
  if let some r := hexFloatAt? cs then some r
  else if lower.take 8 == "infinity".toList then some (1.0 / 0.0, cs.drop 8)
  else if lower.take 3 == "inf".toList then some (1.0 / 0.0, cs.drop 3)
  else if lower.take 3 == "nan".toList then some (0.0 / 0.0, cs.drop 3)
  else if whole.isEmpty && fraction.isEmpty then none
  else
    let (exponent, rest) : Int × List Char :=
      match rest with
      | e :: more =>
        if e == 'e' || e == 'E' then
          let (negative, ds) : Bool × List Char :=
            match more with
            | '-' :: r => (true, r)
            | '+' :: r => (false, r)
            | r => (false, r)
          if (ds.head?.map Char.isDigit).getD false then
            let (n, r) := numberAt ds
            (if negative then -(min n 100000 : Nat) else (min n 100000 : Nat), r)
          else (0, rest)
        else (0, rest)
      | [] => (0, rest)
    let m := (numberAt (whole ++ fraction)).1
    let power : Int := exponent - fraction.length
    some (Float.ofScientific m (power < 0) power.natAbs, rest)

/-- The floating-point number that an argument is, its sign apart, and what is wrong with it. -/
def floatOf (arg : String) : Bool × Float × Option NumberFault :=
  match arg.toList with
  | '\'' :: rest | '"' :: rest =>
    (false, Float.ofNat ((rest.head?.map Char.toNat).getD 0), none)
  | whole =>
    let cs := whole.dropWhile Arithmetic.isSpace
    let (negative, ds) : Bool × List Char :=
      match cs with
      | '-' :: r => (true, r)
      | '+' :: r => (false, r)
      | r => (false, r)
    match floatAt? ds with
    | none => (false, 0.0, if arg.isEmpty then none else some .none_)
    | some (x, rest) =>
      let named := !((ds.head?.map fun c => c.isDigit || c == '.').getD true)
      (negative, x,
        if !rest.isEmpty then some .partly
        else if x.isInf && !named then some .outOfRange
        else none)

/-- The digits of m · 2^q with one digit before the point and `places` after it, and the power of
ten of the first digit. -/
def scientific (places : Nat) (m : Nat) (q : Int) : List Char × Int :=
  if m == 0 then (List.replicate (places + 1) '0', 0)
  else
    let r := Decimal.Ratio.ofBinary m q
    let e := Decimal.tenExponent r
    let n := (r.shift (places - e)).round
    let ds := (toString n).toList
    if places + 1 < ds.length then (ds.dropLast, e + 1) else (ds, e)

/-- Digits with a point behind the first one, and an exponent of two digits at least. -/
def withExponent (alternate : Bool) (ds : List Char) (e : Int) : List Char :=
  let point : List Char := if 1 < ds.length || alternate then ['.'] else []
  let exponent := (toString e.natAbs).toList
  ds.take 1 ++ point ++ ds.drop 1 ++ 'e' :: (if e < 0 then '-' else '+')
    :: List.replicate (2 - exponent.length) '0' ++ exponent

/-- Digits of a fraction without the zeros at its end. -/
def withoutZeros (cs : List Char) : List Char :=
  if cs.contains '.' then
    Text.dropWhileEnd (· == '.') (Text.dropWhileEnd (· == '0') cs)
  else cs

/-- m · 2^q in base 16, one digit before the point and so many places after it, or as many as it
takes. -/
def hexadecimal (places : Option Nat) (alternate : Bool) (m : Nat) (q : Int) : List Char :=
  let bits := m.log2
  -- The digits after the point of m / 2^bits, 13 of them at least.
  let scaled := if m == 0 then 0 else m * Nat.pow 2 (52 - bits)
  let exponent : Int := if m == 0 then 0 else q + bits
  let digits (n width : Nat) : List Char :=
    let ds := Nat.toDigits 16 n
    List.replicate (width - ds.length) '0' ++ ds
  let (lead, fraction) : Nat × List Char :=
    match places with
    | none =>
      (scaled / Nat.pow 2 52,
        Text.dropWhileEnd (· == '0') (digits (scaled % Nat.pow 2 52) 13))
    | some n =>
      if 13 ≤ n then
        (scaled / Nat.pow 2 52, digits (scaled % Nat.pow 2 52) 13 ++ List.replicate (n - 13) '0')
      else
        let unit := Nat.pow 16 (13 - n)
        let low := scaled % unit
        let up : Bool := unit < 2 * low || unit == 2 * low && scaled / unit % 2 == 1
        let kept := scaled / unit + (if up then 1 else 0)
        (kept / Nat.pow 16 n, if n == 0 then [] else digits (kept % Nat.pow 16 n) n)
  let point : List Char := if fraction.isEmpty && !alternate then [] else ['.']
  digits lead 1 ++ point ++ fraction ++ ['p', if exponent < 0 then '-' else '+']
    ++ (toString exponent.natAbs).toList

/-- A floating-point number as a conversion writes it. -/
def Conversion.float (k : Conversion) (negative : Bool) (x : Float) : List Char :=
  let lower := k.letter.toLower
  let upper (cs : List Char) : List Char := if k.letter.isUpper then cs.map Char.toUpper else cs
  let sign (negative : Bool) : List Char :=
    if negative then ['-'] else if k.plus then ['+'] else if k.blank then [' '] else []
  match Decimal.parts x with
  | .nan => k.padNumber false (sign negative) (upper "nan".toList)
  | .infinite n => k.padNumber false (sign (negative != n)) (upper "inf".toList)
  | .finite n m q =>
    let places := k.precision.getD 6
    let fixed (places : Nat) : List Char :=
      (Decimal.fixed places x).toList ++ (if places == 0 && k.alternate then ['.'] else [])
    let body : List Char :=
      if lower == 'a' then hexadecimal k.precision k.alternate m q
      else if lower == 'f' then fixed places
      else if lower == 'e' then
        let (ds, e) := scientific places m q
        withExponent k.alternate ds e
      else
        let p := max places 1
        let (ds, e) := scientific (p - 1) m q
        if e < -4 || (p : Int) ≤ e then
          let kept :=
            if k.alternate then ds
            else ds.take 1 ++ Text.dropWhileEnd (· == '0') (ds.drop 1)
          withExponent k.alternate kept e
        else
          let cs := fixed ((p : Int) - 1 - e).toNat
          if k.alternate then cs else withoutZeros cs
    let front : List Char := if lower == 'a' then upper ['0', 'x'] else []
    k.padNumber true (sign (negative != n) ++ front) (upper body)

/-- What has been printed, and what became of the arguments. -/
structure Printed where
  written : List Char
  rest : List String
  /-- Whether an argument was asked for. -/
  used : Bool
  goesOn : Bool
  /-- What is wrong with the arguments. -/
  complaints : List String
  /-- Why the format cannot be used. -/
  refusal : Option String

namespace Printed

/-- What is printed after some more characters. -/
def adding (p : Printed) (cs : List Char) : Printed := { p with written := p.written ++ cs }

/-- The next argument. -/
def next (p : Printed) : Option String × Printed :=
  (p.rest.head?, { p with rest := p.rest.drop 1, used := p.used || !p.rest.isEmpty })

/-- A complaint about an argument. -/
def blaming (p : Printed) (arg : String) (f : Option NumberFault) : Printed :=
  match f with
  | some f => { p with complaints := p.complaints ++ [f.message arg] }
  | none => p

/-- The next argument as a whole number. -/
def nextInteger (signed : Bool) (p : Printed) : Int × Printed :=
  match p.next with
  | (none, p) => (0, p)
  | (some arg, p) =>
    let (n, f) := integerOf signed arg
    (n, p.blaming arg f)

end Printed

/-- A number of 32 bits with a sign, as widths and precisions are. -/
def small (n : Int) : Int := Int.bmod n (Nat.pow 2 32)

/-- What a conversion prints, the text from its percent sign to its letter given for complaints. -/
def converted (k : Conversion) (spelling : List Char) (p : Printed) : Printed :=
  if k.letter == 's' then
    let (arg, p) := p.next
    let cs := (arg.getD "").toList
    p.adding (k.pad (match k.precision with | some n => cs.take n | none => cs))
  else if k.letter == 'b' then
    let (arg, p) := p.next
    let arg := arg.getD ""
    let (cs, goesOn) := escaped (arg.length + 1) arg.toList
    { p.adding (k.pad (match k.precision with | some n => cs.take n | none => cs)) with goesOn }
  else if k.letter == 'c' then
    let (arg, p) := p.next
    p.adding (k.pad [((arg.getD "").toList.head?).getD (octet 0)])
  else if k.letter == 'd' || k.letter == 'i' then
    let (n, p) := p.nextInteger true
    p.adding (k.integer n)
  else if "ouxX".toList.contains k.letter then
    let (n, p) := p.nextInteger false
    p.adding (k.integer n)
  else if "aAeEfFgG".toList.contains k.letter then
    match p.next with
    | (none, p) => p.adding (k.float false 0.0)
    | (some arg, p) =>
      let (negative, x, f) := floatOf arg
      (p.blaming arg f).adding (k.float negative x)
  else
    { p with goesOn := false, refusal := some (String.ofList spelling ++ ": invalid directive") }

/-- A conversion behind its percent sign; what it prints, and the rest of the format. -/
def conversion (cs : List Char) (p : Printed) : Printed × List Char :=
  let isFlag (c : Char) : Bool := "-0+ #".toList.contains c
  let flags := cs.takeWhile isFlag
  let rest := cs.drop flags.length
  let (width, rest, p) : Int × List Char × Printed :=
    match rest with
    | '*' :: more =>
      let (n, p) := p.nextInteger true
      (small n, more, p)
    | _ =>
      let (n, more) := numberAt rest
      (n, more, p)
  let (precision, rest, p) : Option Int × List Char × Printed :=
    match rest with
    | '.' :: '*' :: more =>
      let (n, p) := p.nextInteger true
      (some (small n), more, p)
    | '.' :: more =>
      let (n, more) := numberAt more
      (some n, more, p)
    | _ => (none, rest, p)
  match rest with
  | [] => ({ p with goesOn := false, refusal := some "missing format character" }, [])
  | c :: rest =>
    let k : Conversion :=
      ⟨flags.contains '-' || width < 0, flags.contains '0', flags.contains '+',
        flags.contains ' ', flags.contains '#', width.natAbs,
        precision.bind fun n => if n < 0 then none else some n.toNat, c⟩
    (converted k ('%' :: cs.take (cs.length - rest.length)) p, rest)

/-- What one use of a format prints. -/
def formatOnce : Nat → List Char → Printed → Printed
  | 0, _, p => p
  | _ + 1, [], p => p
  | fuel + 1, '%' :: '%' :: rest, p => formatOnce fuel rest (p.adding ['%'])
  | fuel + 1, '%' :: rest, p =>
    let (p, rest) := conversion rest p
    if p.goesOn then formatOnce fuel rest p else p
  | fuel + 1, '\\' :: rest, p =>
    let (c, rest) := escape rest
    formatOnce fuel rest (p.adding [c])
  | fuel + 1, c :: rest, p => formatOnce fuel rest (p.adding [c])

/-- What a format prints, used again while arguments are left. -/
def formatAll (format : List Char) : Nat → Printed → Printed
  | 0, p => p
  | rounds + 1, p =>
    let p := formatOnce (format.length + 1) format { p with used := false }
    if p.goesOn && p.used && !p.rest.isEmpty then formatAll format rounds p else p

/-- What `printf` writes, and what is wrong with its arguments or its format. -/
def printf (format : String) (args : List String) : Printed :=
  formatAll format.toList (args.length + 1) ⟨[], args, false, true, [], none⟩

end TestFleet.Shell.Printing
