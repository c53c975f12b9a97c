import TestFleet.Config.Schema
import TestFleet.TestCase.Document
import TestFleet.Toml.DateTime
/-!
# Configurations in documents

Sections that are missing have their defaults, and names the sections do not know are skipped. The
parameters of a component are whatever its entry holds beside `type` and `name`; they are kept in
ascending order.
-/
namespace TestFleet

open Datum

mutual

/-- A parameter value, its tables in ascending order. There is no null among parameters, integers
have 64 bits, and a table that starts with the reserved name of dates and times must be one. -/
def paramValue? : Datum → Option Datum
  | .null => none
  | .int n => if fitsSigned 64 n then some (.int n) else none
  | .list items => (paramItems? items).map .list
  | .table ((n, d) :: rest) =>
    if n = Toml.dateTimeName then
      match d, rest with
      | .text s, [] => (Toml.dateTimeText? s).map Toml.dateTimeTable
      | _, _ => none
    else do
      let first ← paramValue? d
      let others ← paramEntries? rest
      some (.table (Ascending.mapOfList ((n, first) :: others)))
  | d => some d

/-- `paramValue?` of each item. -/
def paramItems? : List Datum → Option (List Datum)
  | [] => some []
  | d :: rest => do
    let d ← paramValue? d
    let ds ← paramItems? rest
    some (d :: ds)

/-- `paramValue?` of each entry. -/
def paramEntries? : List (String × Datum) → Option (List (String × Datum))
  | [] => some []
  | (n, d) :: rest => do
    let d ← paramValue? d
    let ds ← paramEntries? rest
    some ((n, d) :: ds)

end

namespace PluginEntry

/-- Reads a component's entry. -/
def ofDatum? (d : Datum) : Option PluginEntry := do
  let read : FieldReader (String × Option String) := do
    let kind ← required "type" text?
    let name ← optional "name" text?
    pure (kind, name)
  let ((kind, name), extra) ← tableRecord read d
  let params ← paramEntries? extra
  some ⟨kind, name, Ascending.mapOfList params⟩

/-- Writes a component's entry. -/
def toDatum (e : PluginEntry) : Datum :=
  .table <| [("type", .text e.kind)]
    ++ (match e.name with | some n => [("name", .text n)] | none => [])
    ++ e.params

end PluginEntry

/-- Reads a characteristic. -/
def Characteristic.ofDatum? (d : Datum) : Option Characteristic := do
  let s ← choice? isBlank d
  [Characteristic.platformVersion, .display].find? (·.name == s)

/-- A value whose field `tag` says which of several shapes it has: the tag, and the fields of that
shape. As a list, the tag comes first. -/
def tagged? (tag : String) : Datum → Option (String × Datum)
  | .table entries =>
    match entries.filter (·.1 == tag) with
    | [(_, .text t)] => some (t, .table (entries.filter (·.1 != tag)))
    | _ => none
  | .list (.text t :: rest) => some (t, .list rest)
  | _ => none

namespace Pooling

/-- Reads a pooling strategy. -/
def ofDatum? (d : Datum) : Option Pooling := do
  let (strategy, rest) ← tagged? "strategy" d
  match strategy with
  | "omni" => record .ignored (pure .omni) rest
  | "tablet" => record .ignored (pure .tablet) rest
  | "per-device" => record .ignored (pure .perDevice) rest
  | "manual" =>
    let read : FieldReader Pooling := do
      let pools ← required "pools" (table? (list? text?))
      pure (.manual (Ascending.mapOfList pools))
    record .ignored read rest
  | "capability" =>
    let read : FieldReader Pooling := do
      let characteristic ← required "characteristic" Characteristic.ofDatum?
      let buckets ← withDefault "buckets" 2 (nat? 64)
      pure (.capability characteristic buckets)
    record .ignored read rest
  | _ => none

/-- Writes a pooling strategy. -/
def toDatum : Pooling → Datum
  | .omni => .table [("strategy", .text "omni")]
  | .tablet => .table [("strategy", .text "tablet")]
  | .perDevice => .table [("strategy", .text "per-device")]
  | .manual pools =>
    .table [("strategy", .text "manual"),
      ("pools", .table (pools.map fun (n, serials) => (n, .list (serials.map .text))))]
  | .capability c buckets =>
    .table [("strategy", .text "capability"), ("characteristic", .text c.name),
      ("buckets", .int buckets)]

end Pooling

namespace RunSettings

/-- The fields of the settings of the run. -/
def fields : FieldReader RunSettings := do
  let d : RunSettings := {}
  let name ← withDefault "name" d.name text?
  let outputDir ← withDefault "output_dir" d.outputDir text?
  let ignoreFailures ← withDefault "ignore_failures" d.ignoreFailures bool?
  let outputTimeout ← withDefault "output_timeout_secs" d.outputTimeoutSecs (nat? 64)
  let listenerGrace ← withDefault "listener_grace_secs" d.listenerGraceSecs (nat? 64)
  let pollTimeout ← withDefault "poll_timeout_secs" d.pollTimeoutSecs (nat? 64)
  pure ⟨name, outputDir, ignoreFailures, outputTimeout, listenerGrace, pollTimeout⟩

/-- Reads the settings of the run. -/
def ofDatum? : Datum → Option RunSettings := record .ignored fields

/-- Writes the settings of the run. -/
def toDatum (s : RunSettings) : Datum :=
  .table [("name", .text s.name), ("output_dir", .text s.outputDir),
    ("ignore_failures", .bool s.ignoreFailures),
    ("output_timeout_secs", .int s.outputTimeoutSecs),
    ("listener_grace_secs", .int s.listenerGraceSecs),
    ("poll_timeout_secs", .int s.pollTimeoutSecs)]

end RunSettings

namespace RetrySettings

/-- The fields of the retry quotas. -/
def fields : FieldReader RetrySettings := do
  let d : RetrySettings := {}
  let total ← withDefault "total_allowed_retry_quota" d.total (nat? 64)
  let perTest ← withDefault "retry_per_test_case_quota" d.perTest (nat? 32)
  let avoid ← withDefault "avoid_failed_device" d.avoidFailedDevice bool?
  pure ⟨total, perTest, avoid⟩

/-- Reads the retry quotas. -/
def ofDatum? : Datum → Option RetrySettings := record .ignored fields

/-- Writes the retry quotas. -/
def toDatum (s : RetrySettings) : Datum :=
  .table [("total_allowed_retry_quota", .int s.total),
    ("retry_per_test_case_quota", .int s.perTest),
    ("avoid_failed_device", .bool s.avoidFailedDevice)]

end RetrySettings

namespace TestDescriptor

/-- Reads a test of a suite. -/
def ofDatum? (d : Datum) : Option TestDescriptor := do
  let read : FieldReader TestDescriptor := do
    let onlyOn ← withDefault "only_on" [] (list? text?)
    let notOn ← withDefault "not_on" [] (list? text?)
    let test ← TestCase.fields
    pure ⟨test, onlyOn, notOn⟩
  (tableRecord read d).map (·.1)

/-- Writes a test of a suite. -/
def toDatum (d : TestDescriptor) : Datum :=
  .table (d.test.entries
    ++ [("only_on", .list (d.onlyOn.map .text)), ("not_on", .list (d.notOn.map .text))])

end TestDescriptor

namespace SuiteSource

/-- Reads where the tests come from. -/
def ofDatum? (d : Datum) : Option SuiteSource := do
  let (kind, rest) ← tagged? "type" d
  match kind with
  | "inline" =>
    let read : FieldReader SuiteSource := do
      let tests ← withDefault "tests" [] (list? TestDescriptor.ofDatum?)
      pure (.inline tests)
    record .ignored read rest
  | "file" =>
    let read : FieldReader SuiteSource := do
      let path ← required "path" text?
      pure (.file path)
    record .ignored read rest
  | _ => none

/-- Writes where the tests come from. -/
def toDatum : SuiteSource → Datum
  | .inline tests =>
    .table [("type", .text "inline"), ("tests", .list (tests.map TestDescriptor.toDatum))]
  | .file path => .table [("type", .text "file"), ("path", .text path)]

end SuiteSource

namespace RuleEntries

/-- The fields of the rules of every scope. -/
def fields : FieldReader RuleEntries := do
  let entries := list? PluginEntry.ofDatum?
  let run ← withDefault "run" [] entries
  let pool ← withDefault "pool" [] entries
  let device ← withDefault "device" [] entries
  let testCaseRun ← withDefault "test_case_run" [] entries
  let testCase ← withDefault "test_case" [] entries
  pure ⟨run, pool, device, testCaseRun, testCase⟩

/-- Reads the rules of every scope. -/
def ofDatum? : Datum → Option RuleEntries := record .ignored fields

/-- Writes the rules of every scope. -/
def toDatum (r : RuleEntries) : Datum :=
  let entries (es : List PluginEntry) : Datum := .list (es.map PluginEntry.toDatum)
  .table [("run", entries r.run), ("pool", entries r.pool), ("device", entries r.device),
    ("test_case_run", entries r.testCaseRun), ("test_case", entries r.testCase)]

end RuleEntries

namespace ReportSettings

/-- The fields of which reports are written. -/
def fields : FieldReader ReportSettings := do
  let d : ReportSettings := {}
  let console ← withDefault "console" d.console bool?
  let json ← withDefault "json" d.json bool?
  let junit ← optional "junit" text?
  pure ⟨console, json, junit⟩

/-- Reads which reports are written. -/
def ofDatum? : Datum → Option ReportSettings := record .ignored fields

/-- Writes which reports are written. -/
def toDatum (r : ReportSettings) : Datum :=
  .table [("console", .bool r.console), ("json", .bool r.json),
    ("junit", match r.junit with | some path => .text path | none => .null)]

end ReportSettings

namespace Config

/-- The backends of a configuration that names none. -/
def defaultBackends : List PluginEntry := [⟨"builtin.dry-run", none, []⟩]

/-- Reads a configuration. -/
def ofDatum? : Datum → Option Config :=
  record .ignored do
    let run ← withDefault "run" {} (section? RunSettings.fields)
    let retry ← withDefault "retry" {} (section? RetrySettings.fields)
    let devices ← required "devices" PluginEntry.ofDatum?
    let pooling ← withDefault "pooling" .omni Pooling.ofDatum?
    let suite ← required "suite" SuiteSource.ofDatum?
    let backends ← withDefault "backends" defaultBackends (list? PluginEntry.ofDatum?)
    let rules ← withDefault "rules" {} (section? RuleEntries.fields)
    let report ← withDefault "report" {} (section? ReportSettings.fields)
    pure ⟨run, retry, devices, pooling, suite, backends, rules, report⟩

/-- Writes a configuration with all its defaults. -/
def toDatum (c : Config) : Datum :=
  .table [("run", c.run.toDatum), ("retry", c.retry.toDatum), ("devices", c.devices.toDatum),
    ("pooling", c.pooling.toDatum), ("suite", c.suite.toDatum),
    ("backends", .list (c.backends.map PluginEntry.toDatum)), ("rules", c.rules.toDatum),
    ("report", c.report.toDatum)]

end Config

end TestFleet
