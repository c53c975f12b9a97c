import TestFleet.Decimal.Shortest
/-!
# Writing floating-point numbers

`general` writes the shortest decimal of a double: positionally while the point stands within the
first sixteen digits or at most five places before them, otherwise with an exponent and its sign.
`fixed` writes a given number of places of the exact binary value, a half going to the even
neighbour.
-/
namespace TestFleet.Decimal

/-- Zeros as text. -/
def zeros (n : Nat) : String := String.ofList (List.replicate n '0')

/-- Digits `ds` with the point after the first `n` of them. -/
def insertPoint (ds : List Char) (n : Nat) : String :=
  String.ofList (ds.take n) ++ "." ++ String.ofList (ds.drop n)

/-- Digits placed positionally or with an exponent, as their magnitude asks. -/
def placed (d : Digits) : String :=
  let ds := (toString d.value).toList
  let point : Int := (ds.length : Int) + d.exponent
  if 0 ≤ d.exponent ∧ point ≤ 16 then
    String.ofList ds ++ zeros d.exponent.toNat ++ ".0"
  else if 0 < point ∧ point ≤ 16 then insertPoint ds point.toNat
  else if -5 < point ∧ point ≤ 0 then "0." ++ zeros (-point).toNat ++ String.ofList ds
  else
    let exponent := (if point ≤ 0 then "" else "+") ++ toString (point - 1)
    match ds with
    | [only] => String.ofList [only] ++ "e" ++ exponent
    | _ => insertPoint ds 1 ++ "e" ++ exponent

/-- The shortest text that reads back as the number; none for a number that is not finite. -/
def general? (x : Float) : Option String :=
  match parts x with
  | .nan | .infinite _ => none
  | .finite negative m q =>
    let magnitude := if m = 0 then "0.0" else placed (shortest m q)
    some (if negative then "-" ++ magnitude else magnitude)

/-- The number with exactly `places` digits after the point. -/
def fixed (places : Nat) (x : Float) : String :=
  match parts x with
  | .nan => "NaN"
  | .infinite negative => if negative then "-inf" else "inf"
  | .finite negative m q =>
    let n := ((Ratio.ofBinary m q).shift places).round
    let ds := toString n
    let padded := zeros (places + 1 - ds.length) ++ ds
    let whole := padded.toList.take (padded.length - places)
    let rest := padded.toList.drop (padded.length - places)
    let magnitude := if places = 0 then ds else String.ofList whole ++ "." ++ String.ofList rest
    if negative then "-" ++ magnitude else magnitude

end TestFleet.Decimal
