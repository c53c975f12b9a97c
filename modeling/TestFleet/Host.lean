import TestFleet.Action
import TestFleet.Files.Tree
import TestFleet.Time.Moment
/-!
# The host of a run

What a run touches outside itself: files, environment variables, the clock, and the lines it
prints. Commands and waiting move the clock; nothing else does. Components act on any world that
has a host in it (`Hosted`), so that a world can hold more than the host.
-/
namespace TestFleet

/-- The machine that a run takes place on. -/
structure Host where
  files : Files.Tree
  environment : List (String × String)
  clock : Time.Moment
  /-- The text printed so far, in pieces, the last one first. -/
  printed : List String
  /-- Whether a progress bar is up; it is drawn on a terminal only, and not printed. -/
  showsProgress : Bool := false
  deriving Inhabited

namespace Host

/-- The value of an environment variable. -/
def env? (h : Host) (name : String) : Option String := h.environment.lookup name

/-- Prints a line. -/
def print (h : Host) (line : String) : Host := { h with printed := (line ++ "\n") :: h.printed }

/-- All that was printed. -/
def output (h : Host) : String := String.join h.printed.reverse

/-- Lets time pass. -/
def wait (h : Host) (span : Time.Span) : Host := { h with clock := h.clock.later span }

end Host

/-- A world with a host in it. -/
class Hosted (W : Type) where
  host : W → Host
  withHost : Host → W → W

instance : Hosted Host := ⟨id, fun h _ => h⟩

namespace Hosted

variable {W ε α : Type} [Hosted W]

/-- The time on the world's clock. -/
def now (w : W) : Time.Moment := (host w).clock

/-- A change of the host as a change of the world. -/
def modify (f : Host → Host) (w : W) : W := withHost (f (host w)) w

/-- Something that acts on the host, as an action on the world. -/
def onHost (f : Host → Outcome ε α × Host) : Action W ε α := fun w =>
  let (o, h) := f (host w)
  (o, withHost h w)

/-- The time on the clock, as an action. -/
def clock : Action W ε Time.Moment := fun w => (.done (now w), w)

/-- How an action ends that is waited for no longer than a span, and the world then. An action that
takes longer is given up: what it has done stays, how it would end is not known, and the clock stands
at the end of the wait. -/
def within (limit : Time.Span) (x : Action W ε α) : W → Option (Outcome ε α) × W := fun w =>
  let (o, v) := x w
  if ((now w).spanUntil (now v)).nanos ≤ limit.nanos then (some o, v)
  else (none, modify (fun h => { h with clock := (now w).later limit }) v)

/-- What takes no time is not given up. -/
theorem within_of_still {limit : Time.Span} {x : Action W ε α} {w : W}
    (still : now (x w).2 = now w) : within limit x w = (some (x w).1, (x w).2) := by
  simp [within, still, Time.Span.zero]

end Hosted

end TestFleet
