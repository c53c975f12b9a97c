import TestFleet.Backend
import TestFleet.Work.Queue
import TestFleet.Config.Document
import TestFleet.Json.Parser
/-!
# Suites

The suite of a pool holds the tests that some device of the pool may run. Preparing it drops
repeated tests, records for every device which backends support a test, and excludes devices that
no backend supports.
-/
namespace TestFleet

/-- Why a suite cannot be loaded. -/
inductive SuiteError where
  | unreadable (path : String) (failure : Files.Failure)
  /-- The file does not hold a JSON list of tests. -/
  | malformed (path : String)
  deriving DecidableEq, Repr, Inhabited

/-- The error as people read it. -/
def SuiteError.message : SuiteError → String
  | .unreadable path failure => "Failed to read suite file: " ++ path ++ ": " ++ failure.message
  | .malformed path => "Failed to parse suite file: " ++ path

/-- A listed test as a work item. -/
def TestDescriptor.item (d : TestDescriptor) : WorkItem :=
  ((WorkItem.ofTest d.test).including (d.onlyOn.map DeviceId.mk)).excluding
    (d.notOn.map DeviceId.mk)

namespace Suite

/-- The items of the tests that some device of a pool may run. -/
def itemsFor (pool : DevicePool) (tests : List TestDescriptor) : List WorkItem :=
  (tests.map TestDescriptor.item).filter (·.compatibleIn pool)

/-- The tests in the text of a document. -/
def testsIn? (text : String) : Option (List TestDescriptor) := do
  Datum.list? TestDescriptor.ofDatum? (← Json.parse? text)

/-- The tests of a source. -/
def tests (source : SuiteSource) (files : Files.Tree) : Except SuiteError (List TestDescriptor) :=
  match source with
  | .inline tests => .ok tests
  | .file path =>
    match files.readText path with
    | .error f => .error (.unreadable path f)
    | .ok text =>
      match testsIn? text with
      | some tests => .ok tests
      | none => .error (.malformed path)

/-- The suite of a pool, as its source has it. -/
def load (source : SuiteSource) (files : Files.Tree) (pool : DevicePool) :
    Except SuiteError (List WorkItem) :=
  (tests source files).map (itemsFor pool)

variable {W : Type}

/-- The devices of a pool that no backend supports for a test. -/
def unsupported (pool : DevicePool) (backends : List (Backend W)) (test : TestCase) :
    List DeviceId :=
  (pool.devices.filter fun d => (Backend.supporting backends d test).isEmpty).map (·.id)

/-- Records backends for a device, in the place of those recorded before. -/
def assign (device : DeviceId) (ids : List String) (known : List (DeviceId × List String)) :
    List (DeviceId × List String) :=
  known.filter (·.1 != device) ++ [(device, ids)]

/-- For each device that some backend supports for a test, the names of these backends. -/
def assignments (pool : DevicePool) (backends : List (Backend W)) (test : TestCase) :
    List (DeviceId × List String) :=
  let supported := (pool.devices.map fun d => (d.id, Backend.supporting backends d test)).filter
    fun (_, ids) => !ids.isEmpty
  supported.foldl (fun known (device, ids) => assign device ids known) []

/-- An item with its backends, on the devices that have one. -/
def prepareItem (pool : DevicePool) (backends : List (Backend W)) (item : WorkItem) :
    Except ConfigError WorkItem :=
  let ready := { item.excluding (unsupported pool backends item.test) with
    backends := assignments pool backends item.test }
  if ready.compatibleIn pool then .ok ready
  else .error (.noCompatibleDevice pool.id.name item.test.display)

/-- The items that a pool runs: each test once, each with its backends. -/
def prepare (pool : DevicePool) (items : List WorkItem) (backends : List (Backend W)) :
    Except ConfigError (List WorkItem) :=
  (WorkQueue.firsts items).mapM (prepareItem pool backends)

end Suite

end TestFleet
