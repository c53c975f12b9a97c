import TestFleet.Run.Result
import TestFleet.Result.Document
/-!
# Results of runs in documents

A run is written with its pools, each with its final results, the superseded attempts and what the
devices did; the duration is a number of seconds. A device that was not retired has no such field.
-/
namespace TestFleet

open Datum

/-- Writes what a device did. -/
def DeviceSummary.toDatum (d : DeviceSummary) : Datum :=
  .table <| [("device", .text d.device.serial), ("executed", .int d.executed)]
    ++ (match d.retired with | some reason => [("retired", .text reason)] | none => [])

/-- Writes a pool. -/
def PoolResult.toDatum (p : PoolResult) : Datum :=
  .table [("pool", .text p.pool.name), ("results", .list (p.results.map TestResult.toDatum)),
    ("retried_attempts", .list (p.retried.map TestResult.toDatum)),
    ("unreachable", .int p.unreachable),
    ("devices", .list (p.devices.map DeviceSummary.toDatum))]

namespace RunResult

/-- The fields of a written run. -/
def entries (r : RunResult) : List (String × Datum) :=
  [("run_id", .text r.runId.text), ("pools", .list (r.pools.map PoolResult.toDatum)),
    ("duration_secs", .float r.duration.seconds), ("ignore_failures", .bool r.ignoreFailures),
    ("retries_used", .int r.retriesUsed)]

/-- Writes a run. -/
def toDatum (r : RunResult) : Datum := .table r.entries

/-- Writes the counts of a run. -/
def summaryDatum (r : RunResult) : Datum :=
  .table [("total", .int r.total), ("passed", .int r.passed), ("failed", .int r.failed),
    ("errors", .int r.errors), ("ignored", .int r.ignored), ("success", .bool r.success)]

end RunResult

end TestFleet
