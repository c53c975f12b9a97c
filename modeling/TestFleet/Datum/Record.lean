import TestFleet.Datum
/-!
# Reading records out of documents

A record is written as a table of named fields, or as a list of its fields in their declared order
with optional ones missing at the end. A `FieldReader` takes the fields one after the other; a
field that is given twice, has the wrong shape, or is required and missing makes the whole reading
fail. Names that no field asks for are skipped or refused, as the caller says.
-/
namespace TestFleet.Datum

/-- The fields of a record that have not been read yet. -/
inductive Fields where
  | named (entries : List (String × Datum))
  | listed (items : List Datum)

/-- Reads some fields of a record and leaves the others. -/
abbrev FieldReader (α : Type) := StateT Fields Option α

/-- Whether a record takes fields it does not know. -/
inductive Extra where
  | ignored
  | refused
  deriving DecidableEq

/-- The value of the next field, if it is there; fails if it is there twice. -/
def field? (name : String) : FieldReader (Option Datum) := fun fields =>
  match fields with
  | .named entries =>
    match entries.filter (·.1 == name) with
    | [] => some (none, fields)
    | [(_, d)] => some (some d, .named (entries.filter (·.1 != name)))
    | _ => none
  | .listed [] => some (none, fields)
  | .listed (d :: rest) => some (some d, .listed rest)

/-- A field that must be there. -/
def required {α : Type} (name : String) (read : Datum → Option α) : FieldReader α := do
  match ← field? name with
  | some d => fun fields => (read d).map (·, fields)
  | none => fun _ => none

/-- A field with a default. -/
def withDefault {α : Type} (name : String) (default : α) (read : Datum → Option α) :
    FieldReader α := do
  match ← field? name with
  | some d => fun fields => (read d).map (·, fields)
  | none => pure default

/-- A field that may be missing, or null. -/
def optional {α : Type} (name : String) (read : Datum → Option α) : FieldReader (Option α) := do
  match ← field? name with
  | some .null | none => pure none
  | some d => fun fields => (read d).map fun a => (some a, fields)

/-- Whether the fields left over are acceptable. -/
def Fields.finished : Fields → Extra → Bool
  | .named [], _ => true
  | .named (_ :: _), extra => extra == .ignored
  | .listed items, _ => items.isEmpty

/-- Reads a record from a table or a list. -/
def record {α : Type} (extra : Extra) (read : FieldReader α) : Datum → Option α
  | .table entries => finish (.named entries)
  | .list items => finish (.listed items)
  | _ => none
where
  finish (fields : Fields) : Option α := do
    let (a, rest) ← read fields
    if rest.finished extra then some a else none

/-- Reads a section of a document: names that it does not know are skipped, and so are items after
its fields if it is a list. -/
def section? {α : Type} (read : FieldReader α) : Datum → Option α
  | .table entries => (read (.named entries)).map (·.1)
  | .list items => (read (.listed items)).map (·.1)
  | _ => none

/-- Reads a record that must be a table; also gives the entries no field asked for. -/
def tableRecord {α : Type} (read : FieldReader α) : Datum → Option (α × List (String × Datum))
  | .table entries => do
    let (a, rest) ← read (.named entries)
    match rest with
    | .named extra => some (a, extra)
    | .listed _ => none
  | _ => none

/-- A text. -/
def text? : Datum → Option String
  | .text s => some s
  | _ => none

/-- Nothing. -/
def isNull : Datum → Bool
  | .null => true
  | _ => false

/-- Nothing, or a table of nothing. -/
def isBlank : Datum → Bool
  | .null | .table [] => true
  | _ => false

/-- A list or table of nothing. -/
def isEmptied : Datum → Bool
  | .list [] | .table [] => true
  | _ => false

/-- The name of one of several choices: a text, or a table of that name alone, under which nothing
that matters stands. -/
def choice? (vacant : Datum → Bool) : Datum → Option String
  | .text s => some s
  | .table [(s, d)] => if vacant d then some s else none
  | _ => none

/-- A truth value. -/
def bool? : Datum → Option Bool
  | .bool b => some b
  | _ => none

/-- A natural number of at most so many bits. -/
def nat? (bits : Nat) : Datum → Option Nat
  | .int n => if 0 ≤ n ∧ n.toNat < Nat.pow 2 bits then some n.toNat else none
  | _ => none

/-- A signed number of so many bits. -/
def int? (bits : Nat) : Datum → Option Int
  | .int n => if fitsSigned bits n then some n else none
  | _ => none

/-- A number, whole ones included. -/
def number? : Datum → Option Float
  | .float x => some x
  | .int n => some (Float.ofInt n)
  | _ => none

/-- A list of values of one kind. -/
def list? {α : Type} (read : Datum → Option α) : Datum → Option (List α)
  | .list items => items.mapM read
  | _ => none

/-- A table of values of one kind, in written order. -/
def table? {α : Type} (read : Datum → Option α) : Datum → Option (List (String × α))
  | .table entries => entries.mapM fun (n, d) => (read d).map (n, ·)
  | _ => none

end TestFleet.Datum
