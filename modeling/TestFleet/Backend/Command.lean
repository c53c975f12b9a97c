import TestFleet.Backend
import TestFleet.Rule.Hook
/-!
# Attempts as commands

A backend that runs a command for each attempt. A line of its output may report a status; otherwise
the end of the command decides. A failure keeps the end of the output as its trace, and whatever
was written is kept as a file.
-/
namespace TestFleet

open Datum

/-- What the lines of a command's output say. -/
structure CapturedOutput where
  out : List String
  err : List String
  deriving DecidableEq, Repr, Inhabited

namespace CapturedOutput

/-- What a line starts with that reports a status. -/
def statusMarker : String := "POOLRUN_STATUS="

/-- How many lines of output a trace keeps. -/
def traceLines : Nat := 50

/-- The lines of octets; octets that are no text are replaced. -/
def linesOf (octets : Files.Octets) : List String :=
  let cut (line : Files.Octets) : Files.Octets :=
    if line.getLast? = some 13 then line.dropLast else line
  let segments := Text.pieces (· == 10) octets
  let segments := if segments.getLast? = some [] then segments.dropLast else segments
  segments.map fun line => Text.Utf8.decodeLossy (cut line)

/-- The text after the marker in a line. -/
def reportIn? (line : String) : Option String :=
  (Text.dropLeading? statusMarker.toList (Text.trim line).toList).map String.ofList

/-- The status that the last reporting line gives, if it is one. -/
def reported? (o : CapturedOutput) : Option TestStatus := do
  let text ← o.out.reverse.findSome? reportIn?
  TestStatus.parse? text

/-- The last lines, of the error output if there is one. -/
def tail (o : CapturedOutput) : String :=
  let lines := if o.err.isEmpty then o.out else o.err
  "\n".intercalate (lines.drop (lines.length - traceLines))

/-- All lines, those of the error output below a heading. -/
def log (o : CapturedOutput) : String :=
  String.join (o.out.map (· ++ "\n"))
    ++ (if o.err.isEmpty then "" else "--- stderr ---\n" ++ String.join (o.err.map (· ++ "\n")))

/-- Whether nothing was written. -/
def isEmpty (o : CapturedOutput) : Bool := o.out.isEmpty && o.err.isEmpty

end CapturedOutput

/-- A command that runs attempts. -/
structure CommandBackend where
  id : String
  command : String
  shell : String
  directory : Option String
  environment : List (String × String)
  kinds : List String
  minPlatformVersion : Option Nat
  requiredFeatures : List String
  ignoredExitCode : Option Int
  deriving DecidableEq, Repr, Inhabited

namespace CommandBackend

/-- Reads a command backend. -/
def ofEntry (e : PluginEntry) : Except PluginFault CommandBackend := do
  let read : FieldReader CommandBackend := do
    let command ← required "command" text?
    let shell ← withDefault "shell" defaultShell text?
    let directory ← optional "working_dir" text?
    let environment ← withDefault "env" [] textMap?
    let kinds ← withDefault "kinds" [] (list? text?)
    let minVersion ← optional "min_platform_version" (nat? 32)
    let features ← withDefault "required_features" [] (list? text?)
    let ignored ← optional "ignored_exit_code" (int? 32)
    pure ⟨e.label, command, shell, directory, environment, kinds, minVersion, features, ignored⟩
  let b ← e.parse read
  if (Text.trim b.command).isEmpty then
    throw (.refused ("backend '" ++ e.label ++ "' has an empty command"))
  else pure b

/-- Whether the backend supports a test on a device. -/
def supports (b : CommandBackend) (device : Device) (test : TestCase) : Bool :=
  (b.kinds.isEmpty || b.kinds.contains test.kind)
    && b.minPlatformVersion.all (· ≤ device.platformVersion)
    && b.requiredFeatures.all device.supports

/-- The status of an attempt: the one reported, or else what the end of the command means. -/
def statusFor (b : CommandBackend) (exit : Shell.Exit) (output : CapturedOutput) : TestStatus :=
  match output.reported? with
  | some status => status
  | none =>
    match exit with
    | .code 0 => .pass
    | .code n => if b.ignoredExitCode = some (n : Int) then .ignored else .fail
    | .signal _ => .error

/-- The trace of a failed attempt. -/
def traceOf (exit : Shell.Exit) (output : CapturedOutput) : String :=
  let tail := output.tail
  if tail.isEmpty then exit.text else exit.text ++ "\n" ++ tail

/-- The variables that a command sees. -/
def seenVariables (b : CommandBackend) (ctx : AttemptContext) : List (String × String) :=
  [("POOLRUN_POOL", ctx.pool.id.name), ("POOLRUN_DEVICE", ctx.device.id.serial),
    ("POOLRUN_TEST", ctx.item.test.display), ("POOLRUN_ATTEMPT", toString ctx.item.failures),
    ("POOLRUN_ARTIFACTS", ctx.artifactRoot)] ++ b.environment

/-- The command of an attempt, as it is launched. -/
def launch (b : CommandBackend) (ctx : AttemptContext) : Shell.Launch :=
  ⟨b.shell, substitute (Placeholders.placeholders ctx) b.command, b.seenVariables ctx, b.directory,
    some ctx.config.run.outputTimeout⟩

/-- Launches the command of an attempt, and waits for its end and for that of its output. -/
def running (b : CommandBackend) (ctx : AttemptContext) (host : Host) :
    Outcome BackendError (Shell.Exit × Shell.Ended × Time.Moment × Time.Moment) × Host :=
  let settings := ctx.config.run
  let started := host.clock
  match (b.launch ctx).run host with
  | .error f => (.failed (.launch ((b.launch ctx).command ++ ": " ++ f.message)), host)
  | .ok (ended, host) =>
    match ended.exit with
    | none =>
      (.failed (.timeout (ctx.item.test.display ++ " produced no result within "
        ++ settings.outputTimeout.text)), host.wait settings.outputTimeout)
    | some exit =>
      if ended.ranFor.nanos + settings.listenerGrace.nanos < ended.openFor.nanos then
        (.failed (.disconnected ("output of " ++ ctx.item.test.display ++ " still open "
          ++ settings.listenerGrace.text ++ " after exit (" ++ exit.text ++ ")")),
          host.wait (ended.ranFor + settings.listenerGrace))
      else
        let host := host.wait ended.openFor
        (.done (exit, ended, started, host.clock), host)

/-- The name of the file that keeps the output. -/
def logName : String := "output.log"

variable {W : Type} [Hosted W]

/-- The result of an attempt whose command has ended. -/
def resultOf (b : CommandBackend) (ctx : AttemptContext) (started finished : Time.Moment)
    (exit : Shell.Exit) (output : CapturedOutput) : TestResult :=
  let status := b.statusFor exit output
  let trace := if status.isFailure then some (traceOf exit output) else none
  ⟨ctx.identity, status, started, finished, trace, [], []⟩

/-- Keeps the output of an attempt; what cannot be written is left out. -/
def keepOutput (ctx : AttemptContext) (output : CapturedOutput) (result : TestResult) :
    Action W BackendError TestResult :=
  if output.isEmpty then .give result
  else
    (Hosted.writeArtifact ctx.artifactRoot logName
      (Text.Utf8.encode output.log.toList)).attempt.andThen fun written =>
        match written with
        | .ok a => .give (result.withArtifact a)
        | .error _ => .give result

/-- Runs an attempt. -/
def execute (b : CommandBackend) (ctx : AttemptContext) : Action W BackendError TestResult :=
  (Hosted.onHost (b.running ctx)).andThen fun (exit, ended, started, finished) =>
    let output : CapturedOutput :=
      ⟨CapturedOutput.linesOf ended.out, CapturedOutput.linesOf ended.err⟩
    keepOutput ctx output (b.resultOf ctx started finished exit output)

/-- The command as a backend. -/
def backend (b : CommandBackend) : Backend W where
  id := b.id
  supports := b.supports
  execute := b.execute

end CommandBackend

end TestFleet
