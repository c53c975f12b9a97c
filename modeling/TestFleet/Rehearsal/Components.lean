import TestFleet.Rehearsal.Scripted
import TestFleet.Rehearsal.Tracking
import TestFleet.Plugin.Builtin
/-!
# The components of rehearsals

Beside the built-in components a rehearsal has scripted backends and, at every scope, tracking
rules.
-/
namespace TestFleet.Rehearsal

/-- The components that a rehearsal can name, beside the built-in ones with their seed. -/
def registry (seed : UInt64) : Registry Rehearsal :=
  let backends := (Registry.builtin seed).withBackend "test.scripted" fun _ e =>
    .ofExcept ((Scripted.ofEntry e).map (·.backend))
  (((backends.withRunRule "test.track" (Tracking.factory Tracking.ofRun)).withPoolRule
    "test.track" (Tracking.factory Tracking.ofPool)).withDeviceRule
    "test.track" (Tracking.factory Tracking.ofDevice)).withAttemptRule
    "test.track" (Tracking.factory Tracking.ofAttempt)

end TestFleet.Rehearsal
