/-!
# Scopes of rules

Rules stand around a scope: the run, one of its pools, one device of a pool, or one attempt at a
test. A scope lies inside the one named before it.
-/
namespace TestFleet

/-- What a rule stands around, outermost first. -/
inductive Scope where
  | run
  | pool
  | device
  | attempt
  deriving DecidableEq, Repr, Inhabited

/-- The name of a scope. -/
def Scope.name : Scope → String
  | .run => "run"
  | .pool => "pool"
  | .device => "device"
  | .attempt => "test-case-run"

end TestFleet
