import TestFleet.Result
/-!
# Collected results

A pool collects final results, and apart from them the attempts that a retry superseded. When a
retry finds no device, the latest superseded attempt at its test is taken back.
-/
namespace TestFleet

/-- The results of a pool, in the order they came in. -/
structure Collector where
  results : List TestResult
  retried : List TestResult
  deriving Inhabited

namespace Collector

/-- Nothing collected. -/
def empty : Collector := ⟨[], []⟩

/-- Adds a final result. -/
def push (c : Collector) (r : TestResult) : Collector :=
  { c with results := c.results ++ [r] }

/-- Adds an attempt that a retry supersedes. -/
def pushRetried (c : Collector) (r : TestResult) : Collector :=
  { c with retried := c.retried ++ [r] }

/-- The last element that satisfies a test, and the list without it. -/
def takeLast? {α : Type} (p : α → Bool) : List α → Option (α × List α)
  | [] => none
  | a :: rest =>
    match takeLast? p rest with
    | some (b, r) => some (b, a :: r)
    | none => if p a then some (a, rest) else none

/-- Takes back the latest superseded attempt at a test. -/
def reclaim? (c : Collector) (test : TestKey) : Option (TestResult × Collector) :=
  (takeLast? (fun r => r.test.key == test) c.retried).map fun (r, rest) =>
    (r, { c with retried := rest })

end Collector

end TestFleet
