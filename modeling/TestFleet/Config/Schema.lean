import TestFleet.TestCase
import TestFleet.Datum
import TestFleet.Config.Error
import TestFleet.Time.Span
/-!
# The shape of a configuration

What a configuration says about a run: where devices come from and how they are pooled, which
tests run, on which backends, between which rules, with how many retries, and what is reported.
-/
namespace TestFleet

/-- A component chosen by identifier, with the parameters it is built from. -/
structure PluginEntry where
  kind : String
  name : Option String
  params : List (String × Datum)
  deriving Inhabited

/-- The name of the instance: its own, or the identifier. -/
def PluginEntry.label (e : PluginEntry) : String := e.name.getD e.kind

/-- What capability pools are cut by. -/
inductive Characteristic where
  | platformVersion
  | display
  deriving DecidableEq, Repr, Inhabited

/-- The name of a characteristic. -/
def Characteristic.name : Characteristic → String
  | .platformVersion => "platform_version"
  | .display => "display"

/-- How devices are grouped into pools. -/
inductive Pooling where
  /-- One pool with every device. -/
  | omni
  /-- Named pools that list serials, in ascending order of their names. -/
  | manual (pools : List (String × List String))
  /-- Tablets and the rest. -/
  | tablet
  /-- Ranges of a characteristic, so many at most. -/
  | capability (characteristic : Characteristic) (buckets : Nat)
  /-- One pool for each device. -/
  | perDevice
  deriving DecidableEq, Repr, Inhabited

/-- Settings of the run itself. -/
structure RunSettings where
  name : String := "poolrun"
  outputDir : String := "poolrun-output"
  ignoreFailures : Bool := false
  outputTimeoutSecs : Nat := 300
  listenerGraceSecs : Nat := 5
  pollTimeoutSecs : Nat := 10
  deriving DecidableEq, Repr, Inhabited

/-- How long an attempt may take. -/
def RunSettings.outputTimeout (s : RunSettings) : Time.Span := .ofSeconds s.outputTimeoutSecs

/-- How long to wait for output after an attempt has ended. -/
def RunSettings.listenerGrace (s : RunSettings) : Time.Span := .ofSeconds s.listenerGraceSecs

/-- How long a worker waits for an item before it looks around. -/
def RunSettings.pollTimeout (s : RunSettings) : Time.Span := .ofSeconds s.pollTimeoutSecs

/-- How often attempts are repeated. -/
structure RetrySettings where
  total : Nat := 200
  perTest : Nat := 3
  avoidFailedDevice : Bool := true
  deriving DecidableEq, Repr, Inhabited

/-- A test as a suite lists it: with the devices it may and may not run on. -/
structure TestDescriptor where
  test : TestCase
  onlyOn : List String
  notOn : List String
  deriving DecidableEq, Repr, Inhabited

/-- Where the tests come from. -/
inductive SuiteSource where
  | inline (tests : List TestDescriptor)
  | file (path : String)
  deriving DecidableEq, Repr, Inhabited

/-- The rules of each scope, and the rules that reshape the suite. -/
structure RuleEntries where
  run : List PluginEntry := []
  pool : List PluginEntry := []
  device : List PluginEntry := []
  testCaseRun : List PluginEntry := []
  testCase : List PluginEntry := []
  deriving Inhabited

/-- Which reports are written. -/
structure ReportSettings where
  console : Bool := true
  json : Bool := true
  junit : Option String := none
  deriving DecidableEq, Repr, Inhabited

/-- A whole configuration. -/
structure Config where
  run : RunSettings := {}
  retry : RetrySettings := {}
  devices : PluginEntry
  pooling : Pooling := .omni
  suite : SuiteSource
  backends : List PluginEntry := [⟨"builtin.dry-run", none, []⟩]
  rules : RuleEntries := {}
  report : ReportSettings := {}
  deriving Inhabited

/-- Settings that are wrong whatever is plugged in. -/
def Config.validate (c : Config) : Except ConfigError Unit :=
  if c.backends.isEmpty then .error (.invalid "at least one backend must be configured")
  else if c.run.outputTimeoutSecs = 0 then
    .error (.invalid "run.output_timeout_secs must be positive")
  else
    match c.pooling with
    | .capability _ 0 => .error (.invalid "pooling.buckets must be at least 1")
    | _ => .ok ()

end TestFleet
