import TestFleet.Host
import TestFleet.Report
/-!
# Rehearsals

A rehearsal is a run whose components follow a script and write down what happens, so that one can
see how rules, retries and errors work together before any device is touched.
-/
namespace TestFleet

/-- The world of a rehearsal: a host, and what was written down, the last line first. -/
structure Rehearsal where
  host : Host
  log : List String := []
  events : List String := []
  deriving Inhabited

instance : Hosted Rehearsal := ⟨Rehearsal.host, fun host r => { r with host }⟩

namespace Rehearsal

/-- Writes down what a component does. -/
def note (line : String) (r : Rehearsal) : Rehearsal := { r with log := line :: r.log }

/-- Writes down what a reporter is told. -/
def tell (line : String) : Action Rehearsal Empty Unit :=
  .change fun r => { r with events := line :: r.events }

/-- The reporter that writes down what it is told. -/
def reporter : Reporter Rehearsal where
  started plans := tell ("start " ++ toString plans.length ++ " pool(s) "
    ++ toString (PoolPlan.itemCount plans) ++ " test(s)")
  tested r := tell ("test " ++ r.pool.name ++ " " ++ r.test.display ++ " " ++ r.status.name)
  completed r := tell ("complete " ++ toString r.total)

end Rehearsal

end TestFleet
