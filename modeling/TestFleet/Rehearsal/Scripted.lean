import TestFleet.Rehearsal
import TestFleet.Backend
import TestFleet.Rule.Hook
import TestFleet.Result.Document
/-!
# Backends that follow a script

A script has a list of cues for a test, or for a test on one device: one cue for each attempt, the
last one repeating. A cue is a status with an optional trace, an error of a backend, a panic, or a
result that is not the attempt's own.
-/
namespace TestFleet

open Datum

/-- A backend's script. -/
structure Scripted where
  id : String
  cues : List (String × List String)
  minPlatformVersion : Nat
  deriving DecidableEq, Repr, Inhabited

namespace Scripted

/-- Reads a script. -/
def ofEntry (e : PluginEntry) : Except PluginFault Scripted :=
  e.parse do
    let cues ← withDefault "attempts" [] (table? (list? text?))
    let minVersion ← withDefault "min_version" 0 (nat? 32)
    pure ⟨e.label, cues, minVersion⟩

/-- The cues for a test on a device. -/
def cuesFor (s : Scripted) (test : TestCase) (device : DeviceId) : List String :=
  (s.cues.lookup (test.display ++ "@" ++ device.serial) <|> s.cues.lookup test.display).getD []

/-- The cue of an attempt. -/
def cue? (s : Scripted) (ctx : AttemptContext) : Option String :=
  let cues := s.cuesFor ctx.item.test ctx.device.id
  cues[ctx.item.failures]? <|> cues.getLast?

/-- A cue cut at its first colon. -/
def cut (cue : String) : String × String :=
  let cs := cue.toList
  (String.ofList (cs.takeWhile (· != ':')), String.ofList ((cs.dropWhile (· != ':')).drop 1))

/-- A passed result of some identity. -/
def passed (identity : ResultIdentity) (now : Time.Moment) : Outcome BackendError TestResult :=
  .done (TestResult.ofStatus identity .pass now)

/-- The result of a status that a cue names. -/
def ofStatusCue (identity : ResultIdentity) (now : Time.Moment) (status trace : String) :
    Outcome BackendError TestResult :=
  match TestStatus.parse? status with
  | none => .failed (.other (TestStatus.unknownMessage status))
  | some status =>
    let r := TestResult.ofStatus identity status now
    .done (if trace.isEmpty then r else { r with trace := some trace })

/-- What a cue makes of an attempt. -/
def follow (identity : ResultIdentity) (now : Time.Moment) (cue : String) :
    Outcome BackendError TestResult :=
  let (head, tail) := cut cue
  match head with
  | "panic" => .panicked tail
  | "launch" => .failed (.launch tail)
  | "disconnected" => .failed (.disconnected tail)
  | "timeout" => .failed (.timeout tail)
  | "other" => .failed (.other tail)
  | "wrong-pool" => passed { identity with pool := ⟨tail⟩ } now
  | "wrong-device" => passed { identity with device := ⟨tail⟩ } now
  | "wrong-property" =>
    let test := identity.test
    let other := { test with properties := Ascending.put tail "x" test.properties }
    passed { identity with test := other } now
  | _ => ofStatusCue identity now head tail

/-- The script as a backend. -/
def backend {W : Type} [Hosted W] (s : Scripted) : Backend W where
  id := s.id
  supports device _ := s.minPlatformVersion ≤ device.platformVersion
  execute ctx := fun w =>
    let now := Hosted.now w
    match s.cue? ctx with
    | none => (passed ctx.identity now, w)
    | some cue => (follow ctx.identity now cue, w)

end Scripted

end TestFleet
