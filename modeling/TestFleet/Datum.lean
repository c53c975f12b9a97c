import TestFleet.Order.Ascending
/-!
# Data as documents hold it

JSON and TOML documents are read into one type. Tables keep their entries in written order, a name
that is written twice twice, so that a reader can refuse it.
-/
namespace TestFleet

/-- A value of a document. -/
inductive Datum where
  | null
  | bool (b : Bool)
  | int (n : Int)
  | float (x : Float)
  | text (s : String)
  | list (items : List Datum)
  | table (entries : List (String × Datum))
  deriving Inhabited

namespace Datum

/-- Whether a number can be written with so many bits, one of them for its sign. -/
def fitsSigned (bits : Nat) (n : Int) : Bool :=
  let bound : Int := Int.ofNat (Nat.pow 2 (bits - 1))
  decide (-bound ≤ n) && decide (n < bound)

/-- The first value under a name in a table. -/
def get? (d : Datum) (name : String) : Option Datum :=
  match d with
  | .table entries => entries.lookup name
  | _ => none

/-- Puts a value under a name, in the place of an earlier one if there is one. -/
def put (name : String) (value : Datum) : List (String × Datum) → List (String × Datum)
  | [] => [(name, value)]
  | (n, v) :: rest => if n = name then (n, value) :: rest else (n, v) :: put name value rest

mutual

/-- The value with the names of each table in ascending order and once: the last value wins. -/
def ascending : Datum → Datum
  | .list items => .list (ascendingItems items)
  | .table entries => .table (Ascending.mapOfList (ascendingEntries entries))
  | d => d

/-- `ascending` of each item. -/
def ascendingItems : List Datum → List Datum
  | [] => []
  | d :: rest => ascending d :: ascendingItems rest

/-- `ascending` of each entry. -/
def ascendingEntries : List (String × Datum) → List (String × Datum)
  | [] => []
  | (n, d) :: rest => (n, ascending d) :: ascendingEntries rest

end

end Datum

end TestFleet
