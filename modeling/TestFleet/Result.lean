import TestFleet.Device
import TestFleet.TestCase
import TestFleet.Status
import TestFleet.Time.Moment
/-!
# Results

A result records one attempt at a test on a device. Its identity (pool, device and test) is what
no rule may change; status, trace, metrics and artifacts may be annotated.
-/
namespace TestFleet

/-- A file that an attempt left behind. -/
structure Artifact where
  name : String
  path : String
  deriving DecidableEq, Repr, Inhabited

/-- Whose result a result is. -/
structure ResultIdentity where
  pool : PoolId
  device : DeviceId
  test : TestCase
  deriving DecidableEq, Repr, Inhabited

/-- The identity as people read it. -/
def ResultIdentity.text (i : ResultIdentity) : String :=
  i.pool.name ++ "/" ++ i.device.serial ++ "/" ++ i.test.display

/-- The record of one attempt at a test. -/
structure TestResult where
  identity : ResultIdentity
  status : TestStatus
  startedAt : Time.Moment
  finishedAt : Time.Moment
  trace : Option String
  metrics : List (String × Float)
  artifacts : List Artifact
  deriving Inhabited

namespace TestResult

/-- A result with nothing but a status. -/
def ofStatus (identity : ResultIdentity) (status : TestStatus) (now : Time.Moment) : TestResult :=
  ⟨identity, status, now, now, none, [], []⟩

/-- An ERROR result with a trace. -/
def ofError (identity : ResultIdentity) (started finished : Time.Moment) (trace : String) :
    TestResult :=
  ⟨identity, .error, started, finished, some trace, [], []⟩

/-- The pool of the result. -/
def pool (r : TestResult) : PoolId := r.identity.pool

/-- The device of the result. -/
def device (r : TestResult) : DeviceId := r.identity.device

/-- The test of the result. -/
def test (r : TestResult) : TestCase := r.identity.test

/-- How long the attempt took; nothing if it ended before it started. -/
def duration (r : TestResult) : Time.Span := r.startedAt.spanUntil r.finishedAt

/-- The result with a metric set. -/
def withMetric (r : TestResult) (name : String) (value : Float) : TestResult :=
  { r with metrics := Ascending.put name value r.metrics }

/-- The result with one more artifact. -/
def withArtifact (r : TestResult) (a : Artifact) : TestResult :=
  { r with artifacts := r.artifacts ++ [a] }

/-- The trace of a result that never got a status. -/
def noStatusTrace : String := "test finished without reporting a status"

/-- An UNKNOWN result becomes an ERROR; every other one stays as it is. -/
def settle (r : TestResult) : TestResult :=
  if r.status = .unknown then
    { r with status := .error, trace := some (r.trace.getD noStatusTrace) }
  else r

@[simp]
theorem settle_identity (r : TestResult) : r.settle.identity = r.identity := by
  unfold settle
  split <;> rfl

theorem settle_status_ne_unknown (r : TestResult) : r.settle.status ≠ .unknown := by
  unfold settle
  split
  · simp
  · assumption

end TestResult

end TestFleet
