import TestFleet.Unicode.Classes
/-!
# Expansion of variables in paths

`$NAME`, `${NAME}` and `${NAME:-default}` stand for the value of a variable, `$$` for a dollar
sign, and a leading `~`, alone or before a slash, for the home directory. A variable that is not set
and has no default leaves the whole text as it was; every other dollar sign stands for itself. A `~`
that only a variable put in front is not expanded.
-/
namespace TestFleet.Text

/-- Characters of a variable's name. -/
def isNameChar (c : Char) : Bool := c == '_' || Unicode.isAlphanumeric c

/-- The place where `pat` starts in a text, if it does: what lies before it and after it. -/
def cutAt? (pat : List Char) : List Char → Option (List Char × List Char)
  | [] => if pat.isEmpty then some ([], []) else none
  | c :: rest =>
    match dropLeading? pat (c :: rest) with
    | some after => some ([], after)
    | none => (cutAt? pat rest).map fun (before, after) => (c :: before, after)

/-- The value of `NAME` or `NAME:-default`, as it stands between braces. -/
def bracedValue? (lookup : String → Option String) (inner : List Char) : Option (List Char) :=
  let (name, default) := match cutAt? [':', '-'] inner with
    | some (name, default) => if name.isEmpty then (inner, none) else (name, some default)
    | none => (inner, none)
  match lookup (String.ofList name) with
  | some value => some value.toList
  | none => default

/-- The text with its variables replaced; none if one is not set and has no default. -/
def expandVariables? (lookup : String → Option String) : Nat → List Char → Option (List Char)
  | 0, _ => none
  | _ + 1, [] => some []
  | fuel + 1, c :: rest =>
    if c != '$' then (expandVariables? lookup fuel rest).map (c :: ·)
    else
      match rest with
      | '\x7b' :: more =>
        match cutAt? ['\x7d'] more with
        | some (inner, after) => do
          let value ← bracedValue? lookup inner
          let tail ← expandVariables? lookup fuel after
          some (value ++ tail)
        | none => (expandVariables? lookup fuel more).map ('$' :: '\x7b' :: ·)
      | '$' :: more => (expandVariables? lookup fuel more).map ('$' :: ·)
      | _ =>
        let name := rest.takeWhile isNameChar
        if name.isEmpty then (expandVariables? lookup fuel rest).map ('$' :: ·)
        else do
          let value ← lookup (String.ofList name)
          let tail ← expandVariables? lookup fuel (rest.drop name.length)
          some (value.toList ++ tail)

/-- The text with a leading tilde replaced by the home directory. -/
def expandTilde (home : Option String) (cs : List Char) : List Char :=
  match cs, home with
  | ['~'], some h => h.toList
  | '~' :: '/' :: rest, some h => h.toList ++ '/' :: rest
  | _, _ => cs

/-- The text with variables and a leading tilde replaced. -/
def expand (lookup : String → Option String) (s : String) : String :=
  let cs := s.toList
  match expandVariables? lookup (cs.length + 1) cs with
  | none => s
  | some expanded =>
    if cs.head? != some '~' && expanded.head? == some '~' then String.ofList expanded
    else String.ofList (expandTilde ((lookup "HOME").filter (!·.isEmpty)) expanded)

end TestFleet.Text
