import TestFleet.Backend
import TestFleet.Provider
import TestFleet.Pooling
import TestFleet.Rule
import TestFleet.Suite.Rule
/-!
# The registry of components

A registry knows, for every extension point, which identifiers there are and how a component is
built from its entry. Identifiers are checked for their form before they are looked up.
-/
namespace TestFleet

open Plugin (Point)

/-- Builds something for a context from a component's entry. -/
abbrev Factory (C α : Type) := C → PluginEntry → Outcome PluginFault α

/-- The factories of an extension point by identifier. -/
abbrev FactoryTable (C α : Type) := List (String × Factory C α)

/-- Builds the rules of an entry. -/
abbrev RuleFactory (W C R : Type) := Factory C (List (Rule W C R))

/-- All components that a configuration can name. -/
structure Registry (W : Type) where
  providers : FactoryTable Unit (Provider W) := []
  backends : FactoryTable Unit (Backend W) := []
  runRules : FactoryTable RunContext (List (Rule W RunContext RunResult)) := []
  poolRules : FactoryTable PoolContext (List (Rule W PoolContext PoolResult)) := []
  deviceRules : FactoryTable DeviceContext (List (Rule W DeviceContext DeviceSummary)) := []
  attemptRules : FactoryTable AttemptContext (List (Rule W AttemptContext TestResult)) := []
  suiteRules : FactoryTable PoolContext (List SuiteRule) := []

namespace Registry

variable {W : Type}

/-- The registry without a component. -/
def empty : Registry W := {}

/-- Adds a device provider; it takes the place of an earlier one of the same identifier. -/
def withProvider (r : Registry W) (id : String) (make : Factory Unit (Provider W)) : Registry W :=
  { r with providers := (id, make) :: r.providers }

/-- Adds a backend. -/
def withBackend (r : Registry W) (id : String) (make : Factory Unit (Backend W)) : Registry W :=
  { r with backends := (id, make) :: r.backends }

/-- Adds a rule of the run. -/
def withRunRule (r : Registry W) (id : String) (make : RuleFactory W RunContext RunResult) :
    Registry W :=
  { r with runRules := (id, make) :: r.runRules }

/-- Adds a rule of pools. -/
def withPoolRule (r : Registry W) (id : String) (make : RuleFactory W PoolContext PoolResult) :
    Registry W :=
  { r with poolRules := (id, make) :: r.poolRules }

/-- Adds a rule of devices. -/
def withDeviceRule (r : Registry W) (id : String)
    (make : RuleFactory W DeviceContext DeviceSummary) : Registry W :=
  { r with deviceRules := (id, make) :: r.deviceRules }

/-- Adds a rule of attempts. -/
def withAttemptRule (r : Registry W) (id : String)
    (make : RuleFactory W AttemptContext TestResult) : Registry W :=
  { r with attemptRules := (id, make) :: r.attemptRules }

/-- Adds a rule that reshapes suites. -/
def withSuiteRule (r : Registry W) (id : String) (make : Factory PoolContext (List SuiteRule)) :
    Registry W :=
  { r with suiteRules := (id, make) :: r.suiteRules }

/-- Whether a table has an identifier. -/
def hasIn {C α : Type} (table : FactoryTable C α) (id : String) : Bool := (table.lookup id).isSome

/-- Whether an extension point has an identifier. -/
def has (r : Registry W) (point : Point) (id : String) : Bool :=
  match point with
  | .deviceProvider => hasIn r.providers id
  | .backend => hasIn r.backends id
  | .runRule => hasIn r.runRules id
  | .poolRule => hasIn r.poolRules id
  | .deviceRule => hasIn r.deviceRules id
  | .testCaseRunRule => hasIn r.attemptRules id
  | .testCaseRule => hasIn r.suiteRules id

/-- The extension points that have an identifier. -/
def pointsOf (r : Registry W) (id : String) : List Point := Point.all.filter (r.has · id)

/-- Checks an identifier of an extension point. -/
def check (r : Registry W) (point : Point) (id : String) : Except ConfigError Unit :=
  if !Plugin.isIdentifier id then .error (.malformedIdentifier point id)
  else if !r.has point id then .error (.unknownPlugin point id)
  else .ok ()

/-- Every entry of a configuration, with its extension point. -/
def entriesOf (c : Config) : List (Point × PluginEntry) :=
  [(.deviceProvider, c.devices)]
    ++ c.backends.map (.backend, ·)
    ++ c.rules.run.map (.runRule, ·)
    ++ c.rules.pool.map (.poolRule, ·)
    ++ c.rules.device.map (.deviceRule, ·)
    ++ c.rules.testCaseRun.map (.testCaseRunRule, ·)
    ++ c.rules.testCase.map (.testCaseRule, ·)

/-- The first name that two backends share. -/
def repeatedBackend? (c : Config) : Option String :=
  firstRepeat [] (c.backends.map PluginEntry.label)

/-- Checks every identifier of a configuration, and that its backends have different names. -/
def validate (r : Registry W) (c : Config) : Except ConfigError Unit := do
  (entriesOf c).forM fun (point, entry) => r.check point entry.kind
  match repeatedBackend? c with
  | some name =>
    throw (.invalid ("backend name '" ++ name ++ "' is used twice; set distinct `name`s"))
  | none => pure ()

/-- Builds the component of an entry. -/
def build {C α : Type} (point : Point) (table : FactoryTable C α) (ctx : C) (e : PluginEntry) :
    Outcome ConfigError α :=
  if !Plugin.isIdentifier e.kind then .failed (.malformedIdentifier point e.kind)
  else
    match table.lookup e.kind with
    | none => .failed (.unknownPlugin point e.kind)
    | some make => (make ctx e).mapError (.plugin point e.label)

/-- Builds the rules of entries, in order. -/
def buildAll {C α : Type} (point : Point) (table : FactoryTable C (List α)) (ctx : C)
    (es : List PluginEntry) : Outcome ConfigError (List α) :=
  (Outcome.collect (build point table ctx) es).map List.flatten

/-- Builds a device provider. -/
def provider (r : Registry W) (e : PluginEntry) : Outcome ConfigError (Provider W) :=
  build .deviceProvider r.providers () e

/-- Builds a backend. -/
def backend (r : Registry W) (e : PluginEntry) : Outcome ConfigError (Backend W) :=
  build .backend r.backends () e

/-- Builds the rules of the run. -/
def rulesOfRun (r : Registry W) (ctx : RunContext) :
    Outcome ConfigError (List (Rule W RunContext RunResult)) :=
  buildAll .runRule r.runRules ctx ctx.config.rules.run

/-- Builds the rules of a pool. -/
def rulesOfPool (r : Registry W) (ctx : PoolContext) :
    Outcome ConfigError (List (Rule W PoolContext PoolResult)) :=
  buildAll .poolRule r.poolRules ctx ctx.config.rules.pool

/-- Builds the rules of a device. -/
def rulesOfDevice (r : Registry W) (ctx : DeviceContext) :
    Outcome ConfigError (List (Rule W DeviceContext DeviceSummary)) :=
  buildAll .deviceRule r.deviceRules ctx ctx.config.rules.device

/-- Builds the rules of an attempt. -/
def rulesOfAttempt (r : Registry W) (ctx : AttemptContext) :
    Outcome ConfigError (List (Rule W AttemptContext TestResult)) :=
  buildAll .testCaseRunRule r.attemptRules ctx ctx.config.rules.testCaseRun

/-- Builds the rules that reshape the suite of a pool. -/
def rulesOfSuite (r : Registry W) (ctx : PoolContext) : Outcome ConfigError (List SuiteRule) :=
  buildAll .testCaseRule r.suiteRules ctx ctx.config.rules.testCase

end Registry

end TestFleet
