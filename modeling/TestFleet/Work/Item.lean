import TestFleet.Device
import TestFleet.TestCase
/-!
# Work items

A work item is a test to run, the devices it may and may not run on, how often it has failed, and
the backends that can run it on each device. Two items are items of the same test when the keys of
their tests are equal. A retry keeps the eligibility of the item it follows, or narrows it by one
device; it never widens it (`compatible_of_compatible_successorExcluding`).
-/
namespace TestFleet

/-- A test to run, and where. -/
structure WorkItem where
  test : TestCase
  /-- The devices it may run on; none listed means any. -/
  included : List DeviceId
  /-- The devices it must not run on. -/
  excluded : List DeviceId
  /-- How often it has failed so far. -/
  failures : Nat
  /-- For each device, the names of the backends that can run it, in order of preference. -/
  backends : List (DeviceId × List String)
  deriving DecidableEq, Repr, Inhabited

namespace WorkItem

/-- Devices added to a set of devices. -/
def addDevices (set devices : List DeviceId) : List DeviceId :=
  devices.foldl (fun s d => Ascending.insert DeviceId.before d s) set

/-- An item that may run anywhere and has not failed. -/
def ofTest (test : TestCase) : WorkItem := ⟨test, [], [], 0, []⟩

/-- What tells the item apart from items of other tests. -/
def key (item : WorkItem) : TestKey := item.test.key

/-- The item with more devices allowed. -/
def including (item : WorkItem) (devices : List DeviceId) : WorkItem :=
  { item with included := addDevices item.included devices }

/-- The item with more devices forbidden. -/
def excluding (item : WorkItem) (devices : List DeviceId) : WorkItem :=
  { item with excluded := addDevices item.excluded devices }

/-- The names of the backends for a device. -/
def backendsFor (item : WorkItem) (device : DeviceId) : List String :=
  (item.backends.lookup device).getD []

/-- Whether a device may take the item. -/
def compatible (item : WorkItem) (device : DeviceId) : Bool :=
  !item.excluded.contains device && (item.included.isEmpty || item.included.contains device)

/-- Whether some device of a pool may take the item. -/
def compatibleIn (item : WorkItem) (pool : DevicePool) : Bool :=
  pool.deviceIds.any item.compatible

/-- The next attempt at the item. -/
def successor (item : WorkItem) : WorkItem :=
  { item with failures := item.failures + 1 }

/-- The next attempt at the item, anywhere but on one device. -/
def successorExcluding (item : WorkItem) (device : DeviceId) : WorkItem :=
  item.successor.excluding [device]

@[simp]
theorem key_successor (item : WorkItem) : item.successor.key = item.key := rfl

@[simp]
theorem key_successorExcluding (item : WorkItem) (device : DeviceId) :
    (item.successorExcluding device).key = item.key := rfl

@[simp]
theorem compatible_successor (item : WorkItem) (device : DeviceId) :
    item.successor.compatible device = item.compatible device := rfl

@[simp]
theorem mem_addDevices {set devices : List DeviceId} {d : DeviceId} :
    d ∈ addDevices set devices ↔ d ∈ set ∨ d ∈ devices := by
  unfold addDevices
  induction devices generalizing set with
  | nil => simp
  | cons x rest ih =>
    rw [List.foldl_cons, ih, Ascending.mem_insert DeviceId.eq_of_not_before]
    simp only [List.mem_cons]
    grind

theorem compatible_iff {item : WorkItem} {d : DeviceId} :
    item.compatible d = true ↔ d ∉ item.excluded ∧ (item.included = [] ∨ d ∈ item.included) := by
  simp [compatible]

/-- A device that may take the next attempt may take the item. -/
theorem compatible_of_compatible_successorExcluding {item : WorkItem} {failed d : DeviceId}
    (h : (item.successorExcluding failed).compatible d = true) : item.compatible d = true := by
  rw [compatible_iff] at h ⊢
  refine ⟨fun excluded => h.1 ?_, h.2⟩
  exact mem_addDevices.2 (.inl excluded)

end WorkItem

end TestFleet
