import TestFleet.Plugin.Registry
import TestFleet.Rule.Attempt
import TestFleet.Rule.Pipeline
import TestFleet.Report
/-!
# Attempts

An attempt at an item runs the first backend that was found for the item on its device, between
the rules of the attempt. The backend is waited for up to a limit. Whatever goes wrong becomes an
ERROR result, save that a backend or a rule changes the identity of the result: that ends the run. A
panic outside the backend leaves the attempt at once.
-/
namespace TestFleet

/-- What does not change while a run lasts. -/
structure Setting (W : Type) where
  context : RunContext
  registry : Registry W
  backends : List (Backend W)
  reporter : Reporter W

/-- The retry quotas of the run. -/
def Setting.retry {W : Type} (s : Setting W) : RetrySettings := s.context.config.retry

namespace AttemptContext

variable {W : Type}

/-- The backend of an attempt. -/
def backend? (ctx : AttemptContext) (backends : List (Backend W)) : Option (Backend W) :=
  (ctx.item.backendsFor ctx.device.id).head?.bind (Backend.find? backends)

/-- What is said when no backend was found. -/
def noBackend (ctx : AttemptContext) : String :=
  "no backend supports " ++ ctx.item.test.display ++ " on " ++ ctx.device.id.serial

variable [Hosted W]

/-- An ERROR result of the attempt that ends now. -/
def errorResult (ctx : AttemptContext) (started : Time.Moment) (trace : String) (w : W) :
    TestResult :=
  TestResult.ofError ctx.identity started (Hosted.now w) trace

/-- How long the backend may take to answer. -/
def answerLimit (ctx : AttemptContext) : Time.Span :=
  let settings := ctx.config.run
  settings.outputTimeout + settings.listenerGrace + .ofSeconds 5

/-- What is said of a backend that does not answer in time. -/
def noAnswer (ctx : AttemptContext) (backend : Backend W) : String :=
  "backend '" ++ backend.id ++ "' did not answer within " ++ ctx.answerLimit.text

/-- What the backend answers, if it does so in time. -/
def answer (ctx : AttemptContext) (backend : Backend W) :
    W → Option (Outcome BackendError TestResult) × W :=
  Hosted.within ctx.answerLimit.waited (backend.execute ctx)

/-- Runs the backend of the attempt. A limit that is too long to be told is a panic. -/
def execute (ctx : AttemptContext) (backends : List (Backend W)) :
    Action W PipelineError TestResult := fun w =>
  let started := Hosted.now w
  match ctx.backend? backends with
  | none => (.done (ctx.errorResult started ctx.noBackend w), w)
  | some backend =>
    if ctx.answerLimit.overflows then (.panicked Time.Span.overflowText, w)
    else
      match ctx.answer backend w with
      | (some (.done r), w) =>
        if r.identity = ctx.identity then (.done r, w)
        else
          (.failed (.identityChanged .attempt backend.id ctx.identity.text r.identity.text), w)
      | (some (.failed e), w) => (.done (ctx.errorResult started e.message w), w)
      | (some (.panicked m), w) =>
        let trace := "backend '" ++ backend.id ++ "' panicked: " ++ m
        (.done (ctx.errorResult started trace w), w)
      | (none, w) => (.done (ctx.errorResult started (ctx.noAnswer backend) w), w)

/-- The rules of an attempt: time is measured around the configured ones. If these cannot be built
there is only the measuring, and the reason. -/
def pipeline (ctx : AttemptContext) (registry : Registry W) :
    Action W PipelineError (Pipeline W AttemptContext TestResult × Option ConfigError) := fun w =>
  let timing := timingRule (Hosted.now w)
  match registry.rulesOfAttempt ctx with
  | .done rules => (.done (⟨.attempt, timing :: rules⟩, none), w)
  | .failed e => (.done (⟨.attempt, [timing]⟩, some e), w)
  | .panicked m => (.panicked m, w)

/-- What the rules of an attempt carry out: the backend's result, or why it did not run. -/
def result (ctx : AttemptContext) (backends : List (Backend W)) (setup : Option ConfigError)
    (entered : Entered) (started : Time.Moment) : Action W PipelineError TestResult := fun w =>
  match setup, entered.failure with
  | some e, _ => (.done (ctx.errorResult started e.message w), w)
  | none, some e => (.done (ctx.errorResult started e.message w), w)
  | none, none => ctx.execute backends w

/-- The attempt: its rules are entered, its result is found, and its rules are unwound. When the
identity of the result is wrong the rules are still unwound, over an ERROR result. -/
def run (ctx : AttemptContext) (setting : Setting W) : Action W PipelineError TestResult := do
  let (pipeline, setup) ← ctx.pipeline setting.registry
  let started ← Hosted.clock
  let entered ← pipeline.enter ctx
  let found ← (ctx.result setting.backends setup entered started).attempt
  match found with
  | .ok r => pipeline.unwind ctx r entered.depth
  | .error e => fun w =>
    let aborted := ctx.errorResult started e.message w
    (pipeline.release ctx aborted entered.depth).andThen (fun _ => .fail e) w

end AttemptContext

end TestFleet
