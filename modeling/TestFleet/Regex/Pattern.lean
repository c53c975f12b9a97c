import TestFleet.Unicode.Classes
import TestFleet.Unicode.Folding
/-!
# Regular expressions

A pattern denotes, for every place in a text, the places where a match that starts there may end.
`Pattern.ends` computes those for a set of starting places. Since a match never ends before it
starts, so many rounds of a repetition as the text has places reach all that any number of rounds
reaches. `Pattern.matchesIn` asks whether a match lies anywhere in the text.

Patterns are built by `ofSet`, `concat`, `anyOf` and `repeated`, which keep them small: literals
that follow each other are one literal, a choice among characters is a set, what all alternatives
begin with stands before them, and what matches only the empty text is not repeated.
-/
namespace TestFleet.Regex

/-- A condition on a place between characters. -/
inductive Look where
  | textStart
  | textEnd
  | lineStart (returns : Bool)
  | lineEnd (returns : Bool)
  | wordEdge (ascii : Bool)
  | notWordEdge (ascii : Bool)
  | wordStart (ascii : Bool)
  | wordEnd (ascii : Bool)
  | wordStartHalf (ascii : Bool)
  | wordEndHalf (ascii : Bool)
  deriving DecidableEq, Repr, Inhabited

/-- A regular expression. -/
inductive Pattern where
  | empty
  | literal (cs : List Char)
  /-- One character of a set of code points. -/
  | oneOf (set : List Unicode.Range)
  | look (l : Look)
  | seq (p q : Pattern)
  | alt (p q : Pattern)
  /-- At least `low` and at most `high` times, without a bound if there is no `high`. -/
  | times (p : Pattern) (low : Nat) (high : Option Nat) (greedy : Bool)
  | capture (p : Pattern)
  deriving DecidableEq, Repr, Inhabited

/-- Whether a character belongs to words. -/
def isWordChar (ascii : Bool) (c : Char) : Bool :=
  if ascii then c.isAlphanum || c == '_' else Unicode.isWord c

namespace Look

/-- Whether a condition holds between two neighbours; at an end of the text there is none. -/
def holds (l : Look) (before after : Option Char) : Bool :=
  let word (ascii : Bool) (c : Option Char) : Bool := c.any (isWordChar ascii)
  match l with
  | .textStart => before.isNone
  | .textEnd => after.isNone
  | .lineStart false => before.isNone || before == some '\n'
  | .lineStart true =>
    before.isNone || before == some '\n' || (before == some '\r' && after != some '\n')
  | .lineEnd false => after.isNone || after == some '\n'
  | .lineEnd true =>
    after.isNone || after == some '\r' || (after == some '\n' && before != some '\r')
  | .wordEdge a => word a before != word a after
  | .notWordEdge a => word a before == word a after
  | .wordStart a => !word a before && word a after
  | .wordEnd a => word a before && !word a after
  | .wordStartHalf a => !word a before
  | .wordEndHalf a => !word a after

end Look

/-- A set of places, in ascending order and each once. -/
abbrev Places := List Nat

/-- The places of two sets. -/
def Places.union : Places → Places → Places
  | [], bs => bs
  | as, [] => as
  | a :: as, b :: bs =>
    if a < b then a :: Places.union as (b :: bs)
    else if b < a then b :: Places.union (a :: as) bs
    else a :: Places.union as bs

/-- The places of the first set that are not in the second. -/
def Places.minus : Places → Places → Places
  | [], _ => []
  | as, [] => as
  | a :: as, b :: bs =>
    if a < b then a :: Places.minus as (b :: bs)
    else if b < a then Places.minus (a :: as) bs
    else Places.minus as bs

/-- `f` applied over and over to the places found last, so many rounds at most; all places found,
the first ones included. -/
def closure (f : Places → Places) : Nat → Places → Places → Places
  | 0, found, _ => found
  | rounds + 1, found, last =>
    let fresh := (f last).minus found
    if fresh.isEmpty then found else closure f rounds (found.union fresh) fresh

/-- `f` applied so many times. -/
def iterate (f : Places → Places) : Nat → Places → Places
  | 0, places => places
  | n + 1, places => if places.isEmpty then [] else iterate f n (f places)

/-- `f` applied up to so many times; all places found on the way. -/
def iterateUpTo (f : Places → Places) : Nat → Places → Places
  | 0, places => places
  | n + 1, places => if places.isEmpty then [] else places.union (iterateUpTo f n (f places))

namespace Pattern

/-- What matches nothing. -/
def never : Pattern := .oneOf []

/-- One character of a set: a literal if the set has one character only. -/
def ofSet (set : List Unicode.Range) : Pattern :=
  match set with
  | [r] => if r.low = r.high then .literal [Char.ofNat r.low] else .oneOf set
  | _ => .oneOf set

/-- The patterns that follow each other in a pattern. -/
def parts : Pattern → List Pattern
  | .empty => []
  | .seq p q => p :: q.parts
  | p => [p]

/-- The patterns that a pattern chooses among. -/
def choices : Pattern → List Pattern
  | .alt p q => p :: q.choices
  | p => [p]

/-- Literals that follow each other as one literal. -/
def joinLiterals : List Pattern → List Pattern
  | [] => []
  | .literal cs :: rest =>
    match joinLiterals rest with
    | .literal ds :: more => .literal (cs ++ ds) :: more
    | more => .literal cs :: more
  | p :: rest => p :: joinLiterals rest

/-- Patterns that follow each other, as they are. -/
def sequence : List Pattern → Pattern
  | [] => .empty
  | [p] => p
  | p :: rest => .seq p (sequence rest)

/-- Patterns to choose among, as they are. -/
def alternatives : List Pattern → Pattern
  | [] => never
  | [p] => p
  | p :: rest => .alt p (alternatives rest)

/-- Patterns that follow each other. -/
def concat (ps : List Pattern) : Pattern := sequence (joinLiterals (ps.flatMap parts))

/-- The set of characters that some patterns choose among, if all are single characters or all are
sets. -/
def commonSet? (ps : List Pattern) : Option (List Unicode.Range) :=
  let letters := ps.mapM fun
    | .literal [c] => some [Unicode.only c.toNat]
    | _ => none
  let sets := ps.mapM fun
    | .oneOf set => some set
    | _ => none
  (letters <|> sets).map fun found => Unicode.joined found.flatten

/-- Whether a group of a pattern is captured. -/
def captures : Pattern → Bool
  | .capture _ => true
  | .seq p q | .alt p q => p.captures || q.captures
  | .times p _ _ _ => p.captures
  | _ => false

/-- What two lists begin with alike, as far as nothing is captured in it. -/
def commonStart : List Pattern → List Pattern → List Pattern
  | p :: ps, q :: qs => if p = q && !p.captures then p :: commonStart ps qs else []
  | _, _ => []

/-- A choice among patterns, as a set of characters if it is one. -/
def choice (ps : List Pattern) : Pattern :=
  match ps with
  | [p] => p
  | _ =>
    match commonSet? ps with
    | some set => if ps.isEmpty then never else ofSet set
    | none => alternatives ps

/-- A choice among patterns. -/
def anyOf (ps : List Pattern) : Pattern :=
  let all := ps.flatMap choices
  match all with
  | first :: second :: rest =>
    let lifted := (second :: rest).foldl (fun start p => commonStart start p.parts) first.parts
    let isSequence : Pattern → Bool
      | .seq _ _ => true
      | _ => false
    if lifted.isEmpty || !all.all isSequence then choice all
    else
      let ends := all.map fun p => sequence (p.parts.drop lifted.length)
      concat (lifted ++ [choice (ends.flatMap choices)])
  | _ => choice all

/-- Whether a pattern matches the empty text only. -/
def onlyEmpty : Pattern → Bool
  | .empty | .look _ => true
  | .literal _ | .oneOf _ => false
  | .seq p q | .alt p q => p.onlyEmpty && q.onlyEmpty
  | .times p _ _ _ => p.onlyEmpty
  | .capture p => p.onlyEmpty

/-- A pattern repeated. What matches only the empty text matches as often as it need be once it
matches. -/
def repeated (p : Pattern) (low : Nat) (high : Option Nat) (greedy : Bool) : Pattern :=
  let (low, high) := if p.onlyEmpty then (min low 1, some (min (high.getD 1) 1)) else (low, high)
  if low = 0 && high = some 0 then .empty
  else if low = 1 && high = some 1 then p
  else .times p low high greedy

/-- A pattern with the same matches, without captures, in which repetitions without a bound that
stand in one another are one. -/
def unnested : Pattern → Pattern
  | .seq p q => .seq p.unnested q.unnested
  | .alt p q => .alt p.unnested q.unnested
  | .capture p => p.unnested
  | .times p low high greedy =>
    match low, high, p.unnested with
    | 0, none, .times q 0 (some 1) _ => .times q 0 none greedy
    | 1, none, .times q 0 (some 1) _ => .times q 0 none greedy
    | 0, none, .times q 0 none _ => .times q 0 none greedy
    | 0, none, .times q 1 none _ => .times q 0 none greedy
    | 1, none, .times q 0 none _ => .times q 0 none greedy
    | 1, none, .times q 1 none _ => .times q 1 none greedy
    | _, _, q => .times q low high greedy
  | p => p

/-- Where a literal ends that starts at a place. -/
def literalEnd (text : Array Char) : List Char → Nat → Option Nat
  | [], i => some i
  | c :: cs, i => if text[i]? = some c then literalEnd text cs (i + 1) else none

/-- The places where matches end that start at one of the given places. -/
def ends (text : Array Char) : Pattern → Places → Places
  | _, [] => []
  | .empty, places => places
  | .literal cs, places => places.filterMap (literalEnd text cs)
  | .oneOf set, places =>
    places.filterMap fun i =>
      match text[i]? with
      | some c => if Unicode.inRanges set c.toNat then some (i + 1) else none
      | none => none
  | .look l, places =>
    places.filter fun i => l.holds (if i = 0 then none else text[i - 1]?) text[i]?
  | .seq p q, places => ends text q (ends text p places)
  | .alt p q, places => (ends text p places).union (ends text q places)
  | .capture p, places => ends text p places
  | .times p low high _, places =>
    let reached := iterate (ends text p) (min low (text.size + 1)) places
    match high with
    | none => closure (ends text p) (text.size + 1) reached reached
    | some h => iterateUpTo (ends text p) (min (h - low) (text.size + 1)) reached

/-- Whether a match lies anywhere in a text. -/
def matchesIn (p : Pattern) (text : String) : Bool :=
  let chars := text.toList.toArray
  !(p.ends chars (List.range (chars.size + 1))).isEmpty

end Pattern

end TestFleet.Regex
