import TestFleet.Rehearsal
import TestFleet.Rule.Hook
import TestFleet.Result.Document
import TestFleet.Plugin.Registry
/-!
# Rules that track a run

A tracking rule writes down when it is called, at any scope, and can be told to misbehave: to be
refused when it is built, to panic or fail before its scope, to fail after it, or to change the
identity of what it is handed.
-/
namespace TestFleet

open Datum

/-- What a tracking rule is told to do. -/
structure Tracking where
  label : String
  rejectOn : List String
  copies : Nat
  panicOn : List String
  refuse : Bool
  refuseOn : List String
  failAfter : Bool
  disguise : Bool
  setStatus : Option TestStatus
  metric : Option String
  deriving DecidableEq, Repr, Inhabited

/-- How a scope is tracked: its name, what a rule stands before, how a value takes on another
identity, and what is written into it. -/
structure Tracked (C R : Type) where
  scope : String
  subject : C → String
  disguised : R → R
  annotate : Tracking → R → R

namespace Tracking

/-- Reads what a tracking rule is told. -/
def ofEntry (e : PluginEntry) : Except PluginFault Tracking :=
  e.parse do
    let rejectOn ← withDefault "reject_on" [] (list? text?)
    let copies ← withDefault "copies" 1 (nat? 64)
    let panicOn ← withDefault "panic_on" [] (list? text?)
    let refuse ← withDefault "refuse" false bool?
    let refuseOn ← withDefault "refuse_on" [] (list? text?)
    let failAfter ← withDefault "fail_after" false bool?
    let disguise ← withDefault "rewrite" false bool?
    let setStatus ← optional "set_status" TestStatus.ofParam?
    let metric ← optional "metric" text?
    pure ⟨e.label, rejectOn, copies, panicOn, refuse, refuseOn, failAfter, disguise, setStatus,
      metric⟩

/-- The line about a call. -/
def line {C R : Type} (t : Tracking) (k : Tracked C R) (ctx : C) (call : String) : String :=
  k.scope ++ " " ++ k.subject ctx ++ ": " ++ t.label ++ call

/-- The rule. -/
def rule {C R : Type} (t : Tracking) (k : Tracked C R) : Rule Rehearsal C R where
  name := t.label
  before ctx := fun w =>
    let w := w.note (t.line k ctx ".before")
    if t.panicOn.contains (k.subject ctx) then (.panicked (t.label ++ " exploded"), w)
    else if t.refuse || t.refuseOn.contains (k.subject ctx) then
      (.failed (.above (t.label ++ " refused") (.ofMessage ("cause of " ++ t.label))), w)
    else (.done (), w)
  after ctx carried := fun w =>
    let w := w.note (t.line k ctx ".after")
    if t.failAfter then (.failed (.ofMessage (t.label ++ " broke")), w)
    else
      let annotated := k.annotate t carried
      (.done (if t.disguise then k.disguised annotated else annotated), w)

/-- Builds tracking rules of a scope. -/
def factory {C R : Type} (k : Tracked C R) : RuleFactory Rehearsal C R := fun ctx e =>
  match ofEntry e with
  | .error f => .failed f
  | .ok t =>
    let subject := k.subject ctx
    if t.rejectOn.contains subject then .failed (.refused (t.label ++ " rejects " ++ subject))
    else .done (List.replicate t.copies (t.rule k))

/-- The name of pools and devices that there are not. -/
def elsewhere : String := "elsewhere"

/-- How runs are tracked. -/
def ofRun : Tracked RunContext RunResult where
  scope := "run"
  subject ctx := ctx.config.run.name
  disguised r := { r with runId := .nil }
  annotate _ r := r

/-- How pools are tracked. -/
def ofPool : Tracked PoolContext PoolResult where
  scope := "pool"
  subject ctx := ctx.pool.id.name
  disguised r := { r with pool := ⟨elsewhere⟩ }
  annotate _ r := r

/-- How devices are tracked. -/
def ofDevice : Tracked DeviceContext DeviceSummary where
  scope := "device"
  subject ctx := ctx.device.id.serial
  disguised r := { r with device := ⟨elsewhere⟩ }
  annotate _ r := r

/-- How attempts are tracked. -/
def ofAttempt : Tracked AttemptContext TestResult where
  scope := "attempt"
  subject ctx := ctx.item.test.display ++ " " ++ toString ctx.item.failures
  disguised r := TestResult.ofStatus { r.identity with pool := ⟨elsewhere⟩ } r.status r.startedAt
  annotate t r :=
    let r := match t.setStatus with | some s => { r with status := s } | none => r
    match t.metric with
    | some m => r.withMetric m ((r.metrics.lookup m).getD 0.0 + 1.0)
    | none => r

end Tracking

end TestFleet
