import TestFleet.Text.Blank
/-!
# Statuses of tests

The outcome of one attempt at a test. FAIL and ERROR are failures: they are retried, and they fail
a run. UNKNOWN stands for an attempt that has not said how it ended.
-/
namespace TestFleet

/-- The outcome of one attempt at a test. -/
inductive TestStatus where
  | pass
  | fail
  | error
  | ignored
  | assumptionFailed
  | unknown
  deriving DecidableEq, Repr, Inhabited

namespace TestStatus

/-- Every status. -/
def all : List TestStatus := [.pass, .fail, .error, .ignored, .assumptionFailed, .unknown]

/-- The name of a status. -/
def name : TestStatus → String
  | .pass => "PASS"
  | .fail => "FAIL"
  | .error => "ERROR"
  | .ignored => "IGNORED"
  | .assumptionFailed => "ASSUMPTION_FAILED"
  | .unknown => "UNKNOWN"

/-- The status with exactly this name. -/
def ofName? (s : String) : Option TestStatus := all.find? (·.name == s)

/-- Whether an attempt with this status failed. -/
def isFailure : TestStatus → Bool
  | .fail | .error => true
  | _ => false

/-- Other words for a status. -/
def synonyms : List (String × TestStatus) :=
  [("PASSED", .pass), ("FAILED", .fail), ("FAILURE", .fail), ("SKIPPED", .ignored)]

/-- The word that a loosely written status comes down to. -/
def word (s : String) : String := (Text.trim s).map Char.toUpper

/-- Reads a status, whatever its case and the white space around it. -/
def parse? (s : String) : Option TestStatus :=
  ofName? (word s) <|> synonyms.lookup (word s)

/-- What is said of a text that is no status. -/
def unknownMessage (s : String) : String := "unknown test status '" ++ word s ++ "'"

/-- Every status is read back from its name. -/
theorem ofName?_name (s : TestStatus) : ofName? s.name = some s := by
  cases s <;> decide

end TestStatus

end TestFleet
