import TestFleet.Run.Context
import TestFleet.Rule.Hook
import TestFleet.Regex.Parser
import TestFleet.Random.Shuffle
/-!
# Rules that reshape a suite

Before its items are queued, a pool's suite goes through rules that drop items or change their
order. A filter looks at the name, the kind and the annotations of a test; a shuffle puts the items
into an order that a seed decides.
-/
namespace TestFleet

open Datum

/-- A rule on the items of a pool. -/
structure SuiteRule where
  name : String
  apply : PoolContext → List WorkItem → List WorkItem

/-- What a filter asks of a test. -/
structure Filter where
  name : String
  include_ : Option Regex.Pattern
  exclude : Option Regex.Pattern
  includeAnnotations : List String
  excludeAnnotations : List String
  kinds : List String

namespace Filter

/-- Whether a test passes the filter. -/
def keeps (f : Filter) (test : TestCase) : Bool :=
  let matching (p : Regex.Pattern) : Bool := p.matchesIn test.display
  f.include_.all matching
    && !f.exclude.any matching
    && (f.kinds.isEmpty || f.kinds.contains test.kind)
    && (f.includeAnnotations.isEmpty || f.includeAnnotations.any test.hasAnnotation)
    && !f.excludeAnnotations.any test.hasAnnotation

/-- Reads a pattern. -/
def pattern (text : Option String) : Except PluginFault (Option Regex.Pattern) :=
  match text with
  | none => .ok none
  | some s =>
    match Regex.parse? s with
    | some p => .ok (some p)
    | none => .error .pattern

/-- Reads a filter. -/
def ofEntry (e : PluginEntry) : Except PluginFault Filter := do
  let read : FieldReader
      (Option String × Option String × List String × List String × List String) := do
    let include_ ← optional "include" text?
    let exclude ← optional "exclude" text?
    let includeAnnotations ← withDefault "include_annotations" [] (list? text?)
    let excludeAnnotations ← withDefault "exclude_annotations" [] (list? text?)
    let kinds ← withDefault "kinds" [] (list? text?)
    pure (include_, exclude, includeAnnotations, excludeAnnotations, kinds)
  let (include_, exclude, includeAnnotations, excludeAnnotations, kinds) ← e.parse read
  let include_ ← pattern include_
  let exclude ← pattern exclude
  pure ⟨e.label, include_, exclude, includeAnnotations, excludeAnnotations, kinds⟩

/-- The filter as a rule. -/
def rule (f : Filter) : SuiteRule where
  name := f.name
  apply _ items := items.filter fun item => f.keeps item.test

end Filter

/-- Puts the items into the order of a seed. -/
def shuffleRule (seed : UInt64) : SuiteRule where
  name := "builtin.shuffle"
  apply _ items := Random.shuffle seed items

/-- Reads a shuffle; without a seed of its own it has the one given. -/
def shuffleOfEntry (fallback : UInt64) (e : PluginEntry) : Except PluginFault SuiteRule := do
  let seed ← e.parse (optional "seed" (nat? 64))
  pure (shuffleRule ((seed.map (·.toUInt64)).getD fallback))

end TestFleet
