import TestFleet.Result
import TestFleet.TestCase.Document
/-!
# Results in documents

Moments are RFC 3339 text. A result without a trace has no such field; metrics are a map in
ascending order.
-/
namespace TestFleet

open Datum

/-- Reads a moment. -/
def momentOfDatum? (d : Datum) : Option Time.Moment := do
  Time.Moment.ofText? (← text? d)

/-- Reads an exact status name. -/
def TestStatus.ofDatum? (d : Datum) : Option TestStatus := do
  TestStatus.ofName? (← choice? isNull d)

/-- Reads an exact status name among the parameters of a component. -/
def TestStatus.ofParam? (d : Datum) : Option TestStatus := do
  TestStatus.ofName? (← choice? isEmptied d)

/-- Reads an artifact. -/
def Artifact.ofDatum? : Datum → Option Artifact :=
  record .ignored do
    let name ← required "name" text?
    let path ← required "path" text?
    pure ⟨name, path⟩

/-- Writes an artifact. -/
def Artifact.toDatum (a : Artifact) : Datum :=
  .table [("name", .text a.name), ("path", .text a.path)]

namespace TestResult

/-- Reads a result. -/
def ofDatum? : Datum → Option TestResult :=
  record .ignored do
    let pool ← required "pool" text?
    let device ← required "device" text?
    let test ← required "test" TestCase.ofDatum?
    let status ← required "status" TestStatus.ofDatum?
    let startedAt ← required "started_at" momentOfDatum?
    let finishedAt ← required "finished_at" momentOfDatum?
    let trace ← optional "trace" text?
    let metrics ← withDefault "metrics" [] fun d =>
      (table? number? d).map Ascending.mapOfList
    let artifacts ← withDefault "artifacts" [] (list? Artifact.ofDatum?)
    pure ⟨⟨⟨pool⟩, ⟨device⟩, test⟩, status, startedAt, finishedAt, trace, metrics, artifacts⟩

/-- Writes a result. -/
def toDatum (r : TestResult) : Datum :=
  .table <|
    [("pool", .text r.pool.name), ("device", .text r.device.serial), ("test", r.test.toDatum),
      ("status", .text r.status.name), ("started_at", .text r.startedAt.text),
      ("finished_at", .text r.finishedAt.text)]
    ++ (match r.trace with | some t => [("trace", .text t)] | none => [])
    ++ [("metrics", .table (r.metrics.map fun (k, x) => (k, .float x))),
      ("artifacts", .list (r.artifacts.map Artifact.toDatum))]

end TestResult

end TestFleet
