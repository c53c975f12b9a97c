import TestFleet.Backend
import TestFleet.Rule.Hook
import TestFleet.Result.Document
/-!
# Dry runs

A backend that runs nothing: it waits, if asked to, and gives a status. Tests that are listed as
failing FAIL.
-/
namespace TestFleet

open Datum

/-- What a dry run gives. -/
structure DryRun where
  id : String
  status : TestStatus
  delay : Time.Span
  kinds : List String
  failing : List String
  deriving DecidableEq, Repr, Inhabited

namespace DryRun

/-- Reads a dry run. -/
def ofEntry (e : PluginEntry) : Except PluginFault DryRun := do
  let read : FieldReader DryRun := do
    let status ← withDefault "status" .pass TestStatus.ofParam?
    let delay ← withDefault "delay_ms" 0 (nat? 64)
    let kinds ← withDefault "kinds" [] (list? text?)
    let failing ← withDefault "fail" [] (list? text?)
    pure ⟨e.label, status, .ofMillis delay, kinds, failing⟩
  e.parse read

/-- The trace of a test that FAILs in a dry run. -/
def failureTrace : String := "dry run: marked as failing"

/-- The status of a test. -/
def statusOf (d : DryRun) (test : TestCase) : TestStatus :=
  if d.failing.contains test.display then .fail else d.status

/-- The dry run as a backend. -/
def backend {W : Type} [Hosted W] (d : DryRun) : Backend W where
  id := d.id
  supports _ test := d.kinds.isEmpty || d.kinds.contains test.kind
  execute ctx := Hosted.onHost fun host =>
    let started := host.clock
    let host := host.wait d.delay
    let status := d.statusOf ctx.item.test
    let trace := if status = .fail then some failureTrace else none
    (.done ⟨ctx.identity, status, started, host.clock, trace, [], []⟩, host)

end DryRun

end TestFleet
