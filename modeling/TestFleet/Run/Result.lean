import TestFleet.Result
import TestFleet.Run.Identifier
/-!
# Results of pools and runs

A pool ends with the final results of its tests, the attempts that retries superseded, and what
each device did. A run ends with its pools. The counts of a run are counts over all final results.
-/
namespace TestFleet

/-- What one device did. -/
structure DeviceSummary where
  device : DeviceId
  /-- The attempts it finished, superseded ones included. -/
  executed : Nat
  /-- Why it stopped taking work early, if it did. -/
  retired : Option String
  deriving DecidableEq, Repr, Inhabited

/-- A device that did nothing. -/
def DeviceSummary.ofDevice (device : DeviceId) : DeviceSummary := ⟨device, 0, none⟩

/-- What a pool produced. -/
structure PoolResult where
  pool : PoolId
  /-- The final results. -/
  results : List TestResult
  /-- The attempts that a retry superseded. -/
  retried : List TestResult
  /-- How many items no device could take. -/
  unreachable : Nat
  devices : List DeviceSummary
  deriving Inhabited

namespace PoolResult

/-- A pool that produced nothing. -/
def ofPool (pool : PoolId) : PoolResult := ⟨pool, [], [], 0, []⟩

/-- How many final results satisfy a test of their status. -/
def count (p : PoolResult) (matching : TestStatus → Bool) : Nat :=
  p.results.countP fun r => matching r.status

end PoolResult

/-- What a run produced. -/
structure RunResult where
  runId : RunId
  pools : List PoolResult
  duration : Time.Span
  ignoreFailures : Bool
  retriesUsed : Nat
  deriving Inhabited

namespace RunResult

/-- The final results of all pools. -/
def results (r : RunResult) : List TestResult := r.pools.flatMap (·.results)

/-- How many final results satisfy a test of their status. -/
def count (r : RunResult) (matching : TestStatus → Bool) : Nat :=
  r.results.countP fun x => matching x.status

/-- All final results. -/
def total (r : RunResult) : Nat := r.results.length

/-- Results that are PASS. -/
def passed (r : RunResult) : Nat := r.count (· == .pass)

/-- Results that are FAIL. -/
def failed (r : RunResult) : Nat := r.count (· == .fail)

/-- Results that are ERROR. -/
def errors (r : RunResult) : Nat := r.count (· == .error)

/-- Results that are IGNORED or ASSUMPTION_FAILED. -/
def ignored (r : RunResult) : Nat :=
  r.count fun s => s == .ignored || s == .assumptionFailed

/-- Whether no failure remains, or failures do not count. -/
def success (r : RunResult) : Bool := r.ignoreFailures || r.failed + r.errors == 0

/-- The exit code of a process that made the run. -/
def exitCode (r : RunResult) : Nat := if r.success then 0 else 1

end RunResult

end TestFleet
