import TestFleet.Rule.Hook
/-!
# Rules of attempts

Beside hooks, three rules stand around attempts: one measures time, one keeps the trace of a
failure as a file, and one marks retries.
-/
namespace TestFleet

open Datum

variable {W : Type} [Hosted W]

/-- Seconds as milliseconds. -/
def millis (span : Time.Span) : Float := span.seconds * 1000.0

/-- Measures an attempt that started at a moment: the time with its rules as `attempt_ms`, and the
time that its result gives as `duration_ms`. -/
def timingRule (started : Time.Moment) : Rule W AttemptContext TestResult where
  name := "builtin.timing"
  before _ := .give ()
  after _ carried := Hosted.clock.andThen fun now =>
    .give ((carried.withMetric "attempt_ms" (millis (started.spanUntil now))).withMetric
      "duration_ms" (millis carried.duration))

/-- Keeps the trace of a failed attempt as a file of a name. -/
def captureTraceRule (fileName : String) : Rule W AttemptContext TestResult where
  name := "builtin.capture-trace"
  before _ := .give ()
  after ctx carried :=
    match carried.status.isFailure, carried.trace with
    | true, some trace =>
      ((Hosted.writeArtifact ctx.artifactRoot fileName (Text.Utf8.encode trace.toList)).mapError
        fun f => Reason.ofMessage f.message).andThen fun a => .give (carried.withArtifact a)
    | _, _ => .give carried

/-- Reads the rule that keeps traces. -/
def captureTraceOfEntry (e : PluginEntry) :
    Except PluginFault (Rule W AttemptContext TestResult) := do
  let fileName ← e.parse (withDefault "file_name" "failure-trace.txt" text?)
  pure (captureTraceRule fileName)

/-- Marks results of retries with the number of failures before them. -/
def tagRetryRule : Rule W AttemptContext TestResult where
  name := "builtin.tag-retry"
  before _ := .give ()
  after ctx carried :=
    if ctx.item.failures = 0 then .give carried
    else .give (carried.withMetric "retry_attempt" ctx.item.failures.toFloat)

end TestFleet
