import TestFleet.Text.Blank
/-!
# Paths

Paths are texts with `/` between their parts. `join` appends one path to another: an absolute one
replaces what it is joined to. Empty parts and `.` say nothing.
-/
namespace TestFleet.Files

/-- Whether a path starts at the root. -/
def isAbsolute (path : String) : Bool := path.toList.head? == some '/'

/-- One path below another; an absolute second path stands alone. -/
def join (base rest : String) : String :=
  if isAbsolute rest then rest
  else if base.isEmpty || base.toList.getLast? == some '/' then base ++ rest
  else base ++ "/" ++ rest

/-- The parts of a path that say something. -/
def parts (path : String) : List String :=
  (Text.splitOnChar '/' path).filter fun p => !p.isEmpty && p != "."

/-- A path without its last part. -/
def above (path : String) : String :=
  let isSlash (c : Char) : Bool := c == '/'
  let kept := ((path.toList.reverse.dropWhile isSlash).dropWhile (!isSlash ·)).dropWhile isSlash
  String.ofList kept.reverse

/-- Whether a path ends as only a directory's may. -/
def endsAsDirectory (path : String) : Bool :=
  match (Text.splitOnChar '/' path).getLast? with
  | some "" | some "." => !path.isEmpty
  | _ => false

end TestFleet.Files
