import TestFleet.Shell.Program.Content
/-!
# A program that shows octets

Octets are shown sixteen to a line, as characters or as numbers of a size and a base. A line like
the one before it is left out, and a star stands for all such.
-/
namespace TestFleet.Shell.Program

open Files (Octets Failure)

/-- How octets are shown. -/
structure DumpForm where
  /-- As characters, with escapes. -/
  characters : Bool
  size : Nat
  base : Nat
  signed : Bool
  width : Nat
  /-- Whether zeros fill the width. -/
  zeros : Bool

/-- An octet as a character, or as an escape. -/
def octetForm (c : Char) : String :=
  match [(0, "\\0"), (7, "\\a"), (8, "\\b"), (9, "\\t"), (10, "\\n"), (11, "\\v"), (12, "\\f"),
      (13, "\\r")].lookup c.toNat with
  | some s => s
  | none =>
    if OctetClass.print.holds c then String.singleton c
    else String.ofList ((Nat.toDigits 8 (512 + c.toNat)).drop 1)

/-- The numbers of some octets, the lowest of each first. -/
def unitsOf (size : Nat) : Nat → List Char → List Nat
  | 0, _ => []
  | fuel + 1, cs =>
    if cs.isEmpty then []
    else
      (cs.take size).foldr (fun c n => n * 256 + c.toNat) 0 :: unitsOf size fuel (cs.drop size)

/-- A line of octets. -/
def DumpForm.line (f : DumpForm) (cs : List Char) : String :=
  if f.characters then String.join (cs.map fun c => padLeft 4 (octetForm c))
  else
    String.join ((unitsOf f.size cs.length cs).map fun (n : Nat) =>
      let value : Int := if f.signed then Int.bmod n (Nat.pow 256 f.size) else (n : Int)
      let digits := if value < 0 then toString value else String.ofList (Nat.toDigits f.base n)
      let filled := if f.zeros then
          String.ofList (List.replicate (f.width - digits.length) '0') ++ digits
        else digits
      " " ++ padLeft f.width filled)

/-- The form that a letter and a size ask for. -/
def dumpForm? (kind : String) : Option DumpForm :=
  let size (s : List Char) (usual : Nat) : Option Nat :=
    match s with
    | [] => some usual
    | ['1'] | ['C'] => some 1
    | ['2'] | ['S'] => some 2
    | ['4'] | ['I'] => some 4
    | ['8'] | ['L'] => some 8
    | _ => none
  let number (s : List Char) (base : Nat) (signed zeros : Bool) : Option DumpForm :=
    (size s 4).map fun n =>
      let top := if signed then Nat.pow 256 n / 2 else Nat.pow 256 n - 1
      ⟨false, n, base, signed, (Nat.toDigits base top).length + (if signed then 1 else 0), zeros⟩
  match kind.toList with
  | ['c'] => some ⟨true, 1, 8, false, 3, false⟩
  | 'x' :: s => number s 16 false true
  | 'o' :: s => number s 8 false true
  | 'u' :: s => number s 10 false false
  | 'd' :: s => number s 10 true false
  | _ => none

/-- A place in a dump as it is shown in front of a line. -/
def dumpPlace (radix : String) (n : Nat) : String :=
  let filled (width base : Nat) : String :=
    let ds := Nat.toDigits base n
    String.ofList (List.replicate (width - ds.length) '0' ++ ds)
  match radix with
  | "n" => ""
  | "x" => filled 6 16
  | "d" => filled 7 10
  | _ => filled 7 8

/-- The lines of a dump, from a place on. -/
def dumpLines (radix : String) (f : DumpForm) (all : Bool) :
    Nat → Nat → Option (List Char) → Bool → List Char → String
  | 0, _, _, _, _ => ""
  | fuel + 1, place, before, starred, cs =>
    if cs.isEmpty then if radix == "n" then "" else dumpPlace radix place ++ "\n"
    else
      let line := cs.take 16
      let more (starred : Bool) : String :=
        dumpLines radix f all fuel (place + line.length) (some line) starred (cs.drop 16)
      if !all && line.length == 16 && before == some line && !(cs.drop 16).isEmpty then
        (if starred then "" else "*\n") ++ more true
      else dumpPlace radix place ++ f.line line ++ "\n" ++ more false

/-- Shows the octets of files. -/
def od (args : List String) : Doing Nat := do
  let g ← given 1 true ("A=/address-radix t=/format c b x d o s N=/read-bytes j=/skip-bytes "
    ++ "v/output-duplicates a w?/width") args
  let kind : String :=
    match g.last? ["t", "c", "b", "x", "d", "o", "s"] with
    | some "t" => (g.value? "t").getD "o2"
    | some "c" => "c"
    | some "b" => "o1"
    | some "x" => "x2"
    | some "d" => "u2"
    | some "s" => "d2"
    | _ => "o2"
  let form ←
    match dumpForm? kind with
    | some f => pure f
    | none => fail 1 ("invalid type string " ++ named kind)
  let mut all : List Char := []
  let mut status := 0
  for path in g.files do
    match ← contentOf true path with
    | .ok cs => all := all ++ cs
    | .error why =>
      blame (path ++ ": " ++ why)
      status := 1
  let skipped := ((g.value? "j").bind count?).getD 0
  let cs := all.drop skipped
  let cs := match (g.value? "N").bind count? with | some n => cs.take n | none => cs
  if !(all.isEmpty && status != 0) then
    let radix := (g.value? "A").getD "o"
    say 1 (dumpLines radix form (g.has "v") (cs.length + 2) skipped none false cs)
  pure status

end TestFleet.Shell.Program
