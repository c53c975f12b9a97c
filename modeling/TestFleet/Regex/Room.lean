import TestFleet.Regex.Pattern
import TestFleet.Unicode.Octets
import TestFleet.Text.Utf8
/-!
# How much room a pattern takes

A pattern is allowed if the automata that read it octet by octet, forward and backward, fit into a
limit. Every state takes 32 octets, a state with several labelled branches 8 more for each, and a
state with several silent ones 4 more for each. Bounded repetitions are written out, sets are read
in UTF-8, and literals to choose among share their beginnings.
-/
namespace TestFleet.Regex

/-- The way in which an automaton reads a text. -/
inductive Direction where
  | forward
  | backward
  deriving DecidableEq, Repr

namespace Room

/-- A state. -/
def state : Nat := 32

/-- A state with so many labelled branches. -/
def labelled (branches : Nat) : Nat := state + 8 * branches

/-- A state with so many silent branches. -/
def silent (branches : Nat) : Nat := state + 4 * branches

/-- The most room that an automaton may take: 10 MiB. -/
def limit : Nat := 10 * 1024 * 1024

/-- The room of a set. -/
def ofSet (direction : Direction) (set : List Unicode.Range) : Nat :=
  if set.all fun r => r.high < 0x80 then state + labelled set.length
  else
    let sequences := set.flatMap Unicode.Range.octets
    match direction with
    | .forward =>
      (Unicode.sharedNodes sequences).foldl (fun n node => n + labelled node.length) state
    | .backward =>
      silent sequences.length + state + state * Unicode.branches 4 sequences

/-- Words in order, cut where an empty one stands. -/
def segments : List (List UInt8) → List (List (List UInt8))
  | [] => [[]]
  | [] :: rest => [] :: segments rest
  | word :: rest =>
    match segments rest with
    | first :: others => (word :: first) :: others
    | [] => [[word]]

/-- The room of words, of at most so many octets, that share their beginnings. A word that goes on
after another one ended starts anew. -/
def ofWords : Nat → List (List UInt8) → Nat
  | 0, _ => 0
  | length + 1, words =>
    if words.all List.isEmpty then 0
    else
      let parts := segments words
      let filled := parts.filter fun part => !part.isEmpty
      let own := silent (filled.length + (parts.length - 1))
      filled.foldl
        (fun n part =>
          let firsts := (part.filterMap List.head?).eraseDups
          let after (b : UInt8) : List (List UInt8) :=
            (part.filter fun word => word.head? = some b).map List.tail
          let branch := if firsts.length = 1 then state else labelled firsts.length
          firsts.foldl (fun n b => n + ofWords length (after b)) (n + branch))
        own

/-- The octets of literals, if all of some patterns are literals. -/
def words? (direction : Direction) (ps : List Pattern) : Option (List (List UInt8)) :=
  ps.mapM fun
    | .literal cs =>
      let octets := Text.Utf8.encode cs
      some (match direction with | .forward => octets | .backward => octets.reverse)
    | _ => none

end Room

namespace Pattern

/-- How many characters a pattern matches at least, if it can match. -/
def shortest? : Pattern → Option Nat
  | .empty | .look _ => some 0
  | .literal cs => some cs.length
  | .oneOf set => if set.isEmpty then none else some 1
  | .seq p q => do some ((← p.shortest?) + (← q.shortest?))
  | .alt p q => do some (min (← p.shortest?) (← q.shortest?))
  | .times p low _ _ => p.shortest?.map (· * low)
  | .capture p => p.shortest?

/-- The room that a pattern takes; `inChoice` if it stands last in a choice. -/
def room (direction : Direction) : Bool → Pattern → Nat
  | _, .empty => Room.state
  | _, .literal cs => Room.state * (String.ofList cs).utf8ByteSize
  | _, .oneOf set => Room.ofSet direction set
  | _, .look _ => Room.state
  | _, .capture p =>
    room direction false p + (match direction with | .forward => 2 * Room.state | .backward => 0)
  | _, .seq p q => room direction false p + room direction false q
  | inChoice, .alt p q =>
    match if inChoice then none else Room.words? direction (p :: q.choices) with
    | some words =>
      Room.state + Room.ofWords (words.foldl (fun n w => max n w.length) 0 + 1) words
    | none =>
      let last := match q with
        | .alt _ _ => room direction true q
        | _ => room direction false q + 4
      room direction false p + 4 + last + (if inChoice then 0 else Room.silent 0 + Room.state)
  | _, .times p low high _ =>
    let sub := room direction false p
    match low, high with
    | 0, some 1 => Room.silent 2 + sub + Room.state
    | 0, none =>
      if 0 < p.shortest?.getD 0 then Room.silent 2 + sub
      else sub + 2 * Room.silent 2 + Room.state
    | low, none => low * sub + Room.silent 2
    | low, some high =>
      let always := if low = 0 then Room.state else low * sub
      if low = high then always
      else always + Room.state + (high - low) * (Room.silent 2 + sub)

/-- Whether every match starts where the text starts. -/
def startsText : Pattern → Bool
  | .look l => l == .textStart
  | .capture p => p.startsText
  | .seq p q => p.startsText || (p.onlyEmpty && q.startsText)
  | .alt p q => p.startsText && q.startsText
  | .times p low _ _ => 0 < low && p.startsText
  | _ => false

/-- Whether every match ends where the text ends. -/
def endsText : Pattern → Bool
  | .look l => l == .textEnd
  | .capture p => p.endsText
  | .seq p q => q.endsText || (q.onlyEmpty && p.endsText)
  | .alt p q => p.endsText && q.endsText
  | .times p low _ _ => 0 < low && p.endsText
  | _ => false

/-- The room of the whole automaton of a pattern: unless a match can start in one place only, it
first reads any octets, and in the end it accepts. -/
def wholeRoom (direction : Direction) (p : Pattern) : Nat :=
  let anchored := match direction with
    | .forward => p.startsText
    | .backward => p.endsText
  let before :=
    if anchored then Room.state else Room.silent 2 + Room.state + Room.labelled 1
  before + room direction false (.capture p) + Room.state

/-- Whether a pattern fits into the limit. -/
def fits (p : Pattern) : Bool :=
  p.wholeRoom .forward ≤ Room.limit && p.wholeRoom .backward ≤ Room.limit

end Pattern

end TestFleet.Regex
