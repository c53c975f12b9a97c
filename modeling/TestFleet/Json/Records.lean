import TestFleet.Json.Parser
/-!
# Lists of JSON records

In a record that is read for some known names, the values under all other names are passed over.
Such a value must look like JSON, but it is not taken for anything: its numbers may be too large,
its strings need not be UTF-8 or hold whole surrogate pairs, and it may be nested to any depth.
-/
namespace TestFleet.Json

/-- The rest after a string whose opening quote was read. -/
def passString : Nat → List Char → Option (List Char)
  | 0, _ => none
  | _ + 1, [] => none
  | fuel + 1, c :: rest =>
    if c = '"' then some rest
    else if c = '\\' then
      match rest with
      | 'u' :: rest => do
        let (_, rest) ← hexFour? rest
        passString fuel rest
      | e :: rest =>
        if ['"', '\\', '/', 'b', 'f', 'n', 'r', 't'].contains e then passString fuel rest else none
      | [] => none
    else if c.toNat < 0x20 then none
    else passString fuel rest

/-- The rest after at least one digit. -/
def passDigits (cs : List Char) : Option (List Char) :=
  let (ds, rest) := spanDigits cs
  if ds.isEmpty then none else some rest

/-- The rest after an exponent, if one is there. -/
def passExponent (cs : List Char) : Option (List Char) :=
  match cs with
  | c :: rest =>
    if c = 'e' ∨ c = 'E' then
      match rest with
      | '+' :: rest | '-' :: rest => passDigits rest
      | _ => passDigits rest
    else some cs
  | [] => some []

/-- The rest after a number. -/
def passNumber (cs : List Char) : Option (List Char) := do
  let cs := match cs with
    | '-' :: rest => rest
    | _ => cs
  let rest ← match cs with
    | '0' :: rest => if (spanDigits rest).1.isEmpty then some rest else none
    | _ => passDigits cs
  match rest with
  | '.' :: rest => passExponent (← passDigits rest)
  | _ => passExponent rest

mutual

/-- The rest after a value. -/
def passValue : Nat → List Char → Option (List Char)
  | 0, _ => none
  | fuel + 1, cs =>
    match skipSpace cs with
    | 'n' :: 'u' :: 'l' :: 'l' :: rest => some rest
    | 't' :: 'r' :: 'u' :: 'e' :: rest => some rest
    | 'f' :: 'a' :: 'l' :: 's' :: 'e' :: rest => some rest
    | '"' :: rest => passString (rest.length + 1) rest
    | '[' :: rest =>
      match skipSpace rest with
      | ']' :: rest => some rest
      | rest => passItems fuel rest
    | '\x7b' :: rest =>
      match skipSpace rest with
      | '\x7d' :: rest => some rest
      | rest => passEntries fuel rest
    | rest => passNumber rest

/-- The rest after the items of an array and its closing bracket. -/
def passItems : Nat → List Char → Option (List Char)
  | 0, _ => none
  | fuel + 1, cs => do
    match skipSpace (← passValue fuel cs) with
    | ',' :: rest => passItems fuel rest
    | ']' :: rest => some rest
    | _ => none

/-- The rest after the entries of an object and its closing brace. -/
def passEntries : Nat → List Char → Option (List Char)
  | 0, _ => none
  | fuel + 1, cs =>
    match skipSpace cs with
    | '"' :: rest => do
      match skipSpace (← passString (rest.length + 1) rest) with
      | ':' :: rest =>
        match skipSpace (← passValue fuel rest) with
        | ',' :: rest => passEntries fuel rest
        | '\x7d' :: rest => some rest
        | _ => none
      | _ => none
    | _ => none

end

/-- The entries of a record under known names, up to its closing brace. -/
def knownEntries? (known : List String) :
    Nat → List Char → Option (List (String × Datum) × List Char)
  | 0, _ => none
  | fuel + 1, cs =>
    match skipSpace cs with
    | '"' :: rest => do
      let (name, rest) ← string? rest
      match skipSpace rest with
      | ':' :: rest => do
        let (own, rest) ←
          if known.contains name then
            (value? fuel (nestingLimit - 2) rest).map fun (d, rest) => ([(name, d)], rest)
          else (passValue fuel rest).map ([], ·)
        match skipSpace rest with
        | ',' :: rest => do
          let (others, rest) ← knownEntries? known fuel rest
          some (own ++ others, rest)
        | '\x7d' :: rest => some (own, rest)
        | _ => none
      | _ => none
    | _ => none

/-- A record, or any other value. -/
def knownRecord? (known : List String) (fuel : Nat) (cs : List Char) :
    Option (Datum × List Char) :=
  match skipSpace cs with
  | '\x7b' :: rest =>
    match skipSpace rest with
    | '\x7d' :: rest => some (.table [], rest)
    | rest => (knownEntries? known fuel rest).map fun (es, rest) => (.table es, rest)
  | rest => value? fuel (nestingLimit - 1) rest

/-- The records of a list up to its closing bracket. -/
def knownRecords? (known : List String) :
    Nat → List Char → Option (List Datum × List Char)
  | 0, _ => none
  | fuel + 1, cs => do
    let (d, rest) ← knownRecord? known fuel cs
    match skipSpace rest with
    | ',' :: rest => do
      let (ds, rest) ← knownRecords? known fuel rest
      some (d :: ds, rest)
    | ']' :: rest => some ([d], rest)
    | _ => none

/-- Reads a list of records for their values under known names. -/
def recordsIn? (known : List String) (octets : List UInt8) : Option (List Datum) := do
  let cs := octetChars octets
  match skipSpace cs with
  | '[' :: rest =>
    let (ds, rest) ← match skipSpace rest with
      | ']' :: rest => some ([], rest)
      | rest => knownRecords? known (2 * cs.length + 2) rest
    if (skipSpace rest).isEmpty then some ds else none
  | _ => none

end TestFleet.Json
