/-!
# The shortest decimal of a binary floating-point number

A finite double is m · 2^q. The decimals that read back as it lie between its two neighbours'
midpoints, the midpoints included when m is even. `shortest` looks for the fewest digits: for one
digit, two digits and so on it tests the two points of that decimal grid next to the number, and
takes the nearer one that reads back; of two equally near ones the even one.
-/
namespace TestFleet.Decimal

/-- A non-negative number as a quotient of naturals. -/
structure Ratio where
  num : Nat
  den : Nat
  deriving Repr

/-- The quotient rounded to a natural number; a half goes to the even neighbour. -/
def Ratio.round (r : Ratio) : Nat :=
  let down := r.num / r.den
  let twice := 2 * (r.num % r.den)
  if twice < r.den then down
  else if r.den < twice then down + 1
  else if down % 2 = 0 then down
  else down + 1

/-- The quotient times a power of ten. -/
def Ratio.shift (r : Ratio) (k : Int) : Ratio :=
  if 0 ≤ k then ⟨r.num * Nat.pow 10 k.toNat, r.den⟩ else ⟨r.num, r.den * Nat.pow 10 (-k).toNat⟩

/-- What the bits of a double say. -/
inductive Parts where
  | nan
  | infinite (negative : Bool)
  | finite (negative : Bool) (m : Nat) (q : Int)
  deriving Repr

/-- The parts of a double: the finite ones are m · 2^q. -/
def parts (x : Float) : Parts :=
  let bits : Nat := x.toBits.toNat
  let negative : Bool := bits / Nat.pow 2 63 == 1
  let exponent : Nat := bits / Nat.pow 2 52 % Nat.pow 2 11
  let fraction : Nat := bits % Nat.pow 2 52
  if exponent = 2047 then
    if fraction = 0 then .infinite negative else .nan
  else if exponent = 0 then .finite negative fraction (-1074)
  else .finite negative (Nat.pow 2 52 + fraction) ((exponent : Int) - 1075)

/-- m · 2^q as a quotient. -/
def Ratio.ofBinary (m : Nat) (q : Int) : Ratio :=
  if 0 ≤ q then ⟨m * Nat.pow 2 q.toNat, 1⟩ else ⟨m, Nat.pow 2 (-q).toNat⟩

/-- Digits of a number and the power of ten of the last one. -/
structure Digits where
  value : Nat
  exponent : Int
  deriving Repr

/-- The greatest k with 10^k at most the quotient, looked for from `k` on downwards. -/
def tenExponentFrom (r : Ratio) : Nat → Int → Int
  | 0, k => k
  | fuel + 1, k =>
    let p := r.shift (-k)
    if p.den ≤ p.num then k else tenExponentFrom r fuel (k - 1)

/-- The greatest k with 10^k at most the quotient; the quotient must be positive. -/
def tenExponent (r : Ratio) : Int :=
  let bits : Int := (Nat.log2 r.num : Int) - (Nat.log2 r.den : Int)
  let above := (bits + 1) * 30103 / 100000 + 2
  tenExponentFrom r 8 above

/-- The points of the grid 10^k next to the number that lie in the interval, the nearer first. -/
def gridHit (v low high : Ratio) (closed : Bool) (k : Int) : Option Nat :=
  let s := v.shift (-k)
  let down := s.num / s.den
  let inside (d : Nat) : Bool :=
    let l := low.shift (-k)
    let h := high.shift (-k)
    if closed then l.num ≤ d * l.den && d * h.den ≤ h.num
    else l.num < d * l.den && d * h.den < h.num
  let nearest := s.round
  let other := if nearest = down then down + 1 else down
  if inside nearest then some nearest
  else if inside other then some other
  else none

/-- The first grid of 1, 2, … digits with a point in the interval. -/
def firstHit (v low high : Ratio) (closed : Bool) (lead : Int) : Nat → Nat → Digits
  | 0, n => ⟨(v.shift ((n : Int) - 1 - lead)).round, lead - (n : Int) + 1⟩
  | fuel + 1, n =>
    let k := lead - (n : Int) + 1
    match gridHit v low high closed k with
    | some d => ⟨d, k⟩
    | none => firstHit v low high closed lead fuel (n + 1)

/-- A number without the zeros at its end, which go into the exponent. -/
def stripZeros : Nat → Digits → Digits
  | 0, d => d
  | fuel + 1, d =>
    if d.value ≠ 0 && d.value % 10 == 0 then stripZeros fuel ⟨d.value / 10, d.exponent + 1⟩ else d

/-- The fewest digits that read back as m · 2^q, for a positive m. -/
def shortest (m : Nat) (q : Int) : Digits :=
  let v := Ratio.ofBinary (4 * m) (q - 2)
  let below := if m = Nat.pow 2 52 ∧ -1074 < q then 1 else 2
  let low := Ratio.ofBinary (4 * m - below) (q - 2)
  let high := Ratio.ofBinary (4 * m + 2) (q - 2)
  let lead := tenExponent v
  stripZeros 20 (firstHit v low high (m % 2 == 0) lead 16 1)

end TestFleet.Decimal
