import TestFleet.Work.Plan
import TestFleet.Run.Result
import TestFleet.Action
/-!
# Reporters

A reporter is told when a run starts, whenever a test has its final result, and when the run is
complete. Attempts that a retry superseded are not told. A reporter cannot fail, but it can panic.
-/
namespace TestFleet

/-- What is told about a run. -/
structure Reporter (W : Type) where
  started : List PoolPlan → Action W Empty Unit
  tested : TestResult → Action W Empty Unit
  completed : RunResult → Action W Empty Unit

namespace Reporter

variable {W : Type}

/-- The reporter that does nothing. -/
def silent : Reporter W := ⟨fun _ => .give (), fun _ => .give (), fun _ => .give ()⟩

/-- Several reporters as one: each event is told to all of them, in order. -/
def all (reporters : List (Reporter W)) : Reporter W where
  started plans := Action.each (fun (r : Reporter W) => r.started plans) reporters
  tested result := Action.each (fun (r : Reporter W) => r.tested result) reporters
  completed result := Action.each (fun (r : Reporter W) => r.completed result) reporters

end Reporter

end TestFleet
