import TestFleet.Text.Blank
/-!
# Spans of time

A span is a whole number of nanoseconds. `Span.text` writes it in the largest of s, ms, µs and ns
of which it holds at least one, with as many decimals as it needs.
-/
namespace TestFleet.Time

/-- A length of time. -/
structure Span where
  nanos : Nat
  deriving DecidableEq, Repr, Inhabited

namespace Span

/-- Nanoseconds in a second. -/
def perSecond : Nat := 1000000000

/-- So many seconds. -/
def ofSeconds (n : Nat) : Span := ⟨n * perSecond⟩

/-- So many milliseconds. -/
def ofMillis (n : Nat) : Span := ⟨n * 1000000⟩

/-- The empty span. -/
def zero : Span := ⟨0⟩

/-- What is said when spans add up to more than 2^64 seconds. -/
def overflowText : String := "overflow when adding durations"

/-- Whether a span is too long to be told in seconds of 64 bits. -/
def overflows (s : Span) : Bool := Nat.pow 2 64 ≤ s.nanos / perSecond

/-- What is said when a span leads past the last moment of a clock. -/
def beyondClockText : String := "overflow when adding duration to instant"

/-- Whether a span leads past the last moment of a clock that counts seconds in 63 bits and has
been running for a day. -/
def isBeyondClock (s : Span) : Bool := Nat.pow 2 63 ≤ s.nanos / perSecond + 86400

/-- How long a wait of a span lasts: thirty years if it would lead past the last moment of the
clock. -/
def waited (s : Span) : Span := if s.isBeyondClock then ofSeconds (30 * 365 * 86400) else s

instance : Add Span := ⟨fun a b => ⟨a.nanos + b.nanos⟩⟩

/-- Whole seconds. -/
def wholeSeconds (s : Span) : Nat := s.nanos / perSecond

/-- Nanoseconds after the whole seconds. -/
def subNanos (s : Span) : Nat := s.nanos % perSecond

/-- The span in seconds, each part rounded on its own. -/
def seconds (s : Span) : Float :=
  s.wholeSeconds.toFloat + s.subNanos.toFloat / 1000000000.0

/-- A quotient by a power of ten as decimals without trailing zeros. -/
def decimals (n : Nat) (places : Nat) : String :=
  let unit := Nat.pow 10 places
  let fraction := (Text.padZeros places (n % unit)).toList
  match Text.dropWhileEnd (· == '0') fraction with
  | [] => toString (n / unit)
  | ds => toString (n / unit) ++ "." ++ String.ofList ds

/-- The span as people read it: `1.0005s`, `499.999µs`, `0ns`. -/
def text (s : Span) : String :=
  if perSecond ≤ s.nanos then decimals s.nanos 9 ++ "s"
  else if 1000000 ≤ s.nanos then decimals s.nanos 6 ++ "ms"
  else if 1000 ≤ s.nanos then decimals s.nanos 3 ++ "µs"
  else toString s.nanos ++ "ns"

end Span

end TestFleet.Time
