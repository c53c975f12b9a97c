import TestFleet.Text.Blank
/-!
# Extension points and identifiers

A component is chosen by an identifier of at least two segments joined by points. A segment starts
with an ASCII letter or `_` and goes on with ASCII letters, digits, `_` and `-`.
-/
namespace TestFleet.Plugin

/-- The places where a component can be plugged in. -/
inductive Point where
  | deviceProvider
  | backend
  | runRule
  | poolRule
  | deviceRule
  | testCaseRunRule
  | testCaseRule
  deriving DecidableEq, Repr, Inhabited

namespace Point

/-- Every extension point. -/
def all : List Point :=
  [.deviceProvider, .backend, .runRule, .poolRule, .deviceRule, .testCaseRunRule, .testCaseRule]

/-- The name of an extension point. -/
def name : Point → String
  | .deviceProvider => "device provider"
  | .backend => "backend"
  | .runRule => "run rule"
  | .poolRule => "pool rule"
  | .deviceRule => "device rule"
  | .testCaseRunRule => "test-case-run rule"
  | .testCaseRule => "test-case rule"

end Point

/-- Characters a segment may start with. -/
def startsSegment (c : Char) : Bool := c.isAlpha || c == '_'

/-- Characters a segment may go on with. -/
def continuesSegment (c : Char) : Bool := c.isAlphanum || c == '_' || c == '-'

/-- Whether a piece between points is a segment. -/
def isSegment : List Char → Bool
  | [] => false
  | c :: rest => startsSegment c && rest.all continuesSegment

/-- Whether a text is an identifier. -/
def isIdentifier (id : String) : Bool :=
  let segments := Text.pieces (· == '.') id.toList
  2 ≤ segments.length && segments.all isSegment

end TestFleet.Plugin
