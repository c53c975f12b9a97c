import Mathlib.Data.List.Nodup
import TestFleet.Proofs.Outcome
import TestFleet.Proofs.Work.Queue
import TestFleet.Suite
/-!
# Suites as they are prepared

A prepared item may run where the item may that it was prepared from, but on no device that no backend
supports for its test; on the devices that are left it names the backends that do, in their order
(`Suite.backendsFor_of_prepareItem`). The first of them is the first that supports the test there
(`Backend.find?_head?_supporting`), as no two devices and no two backends go by the same name.
-/
namespace TestFleet

/-! ## Descriptors -/

/-- Whether a device may run a listed test: it is not ruled out, and listed if any device is. -/
def TestDescriptor.Allows (d : TestDescriptor) (device : DeviceId) : Prop :=
  device.serial ∉ d.notOn ∧ (d.onlyOn = [] ∨ device.serial ∈ d.onlyOn)

theorem TestDescriptor.allows_iff {d : TestDescriptor} {device : DeviceId} :
    d.Allows device ↔ d.item.compatible device = true := by
  have serial (serials : List String) : device ∈ serials.map DeviceId.mk ↔ device.serial ∈ serials := by
    simp only [List.mem_map]
    constructor
    · rintro ⟨s, hs, rfl⟩
      exact hs
    · exact fun hs => ⟨_, hs, rfl⟩
  have none : WorkItem.addDevices [] (d.onlyOn.map DeviceId.mk) = [] ↔ d.onlyOn = [] := by
    constructor
    · intro none
      refine List.eq_nil_iff_forall_not_mem.2 fun s hs => ?_
      have there : DeviceId.mk s ∈ WorkItem.addDevices [] (d.onlyOn.map DeviceId.mk) :=
        WorkItem.mem_addDevices.2 (.inr (List.mem_map_of_mem hs))
      rw [none] at there
      cases there
    · intro none
      rw [none]
      rfl
  rw [WorkItem.compatible_iff]
  simp only [Allows, TestDescriptor.item, WorkItem.including, WorkItem.excluding, WorkItem.ofTest,
    WorkItem.mem_addDevices, List.not_mem_nil, false_or, serial, none]

/-! ## Backends that support a test -/

namespace Backend

variable {W : Type} {backends : List (Backend W)} {device : Device} {test : TestCase}

/-- Among backends of different names the one that is found by the first name that supports a test is
the first that does. -/
theorem find?_head?_supporting (distinct : (backends.map (·.id)).Nodup) :
    (supporting backends device test).head?.bind (find? backends) =
      backends.find? fun b => b.supports device test := by
  rw [supporting, List.head?_map, List.head?_filter]
  cases first : backends.find? fun b => b.supports device test with
  | none => rfl
  | some b =>
    have hb : b ∈ backends := List.mem_of_find?_eq_some first
    rw [Option.map_some, Option.bind_some]
    cases found : find? backends b.id with
    | none =>
      have missed := List.find?_eq_none.1 found b hb
      simp at missed
    | some b' =>
      have same : b'.id = b.id := by simpa using List.find?_some found
      rw [List.inj_on_of_nodup_map distinct (List.mem_of_find?_eq_some found) hb same]

/-- Where the test is supported there is a first backend that supports it. -/
theorem exists_first_supporting (supported : supporting backends device test ≠ []) :
    ∃ b, backends.find? (fun b => b.supports device test) = some b := by
  cases first : backends.find? fun b => b.supports device test with
  | some b => exact ⟨b, rfl⟩
  | none =>
    refine absurd ?_ supported
    rw [supporting, List.map_eq_nil_iff, List.filter_eq_nil_iff]
    exact List.find?_eq_none.1 first

end Backend

/-! ## Backends on devices -/

namespace Suite

variable {W : Type} {pool : DevicePool} {backends : List (Backend W)} {item ready : WorkItem}
  {device other : DeviceId} {ids : List String} {known entries : List (DeviceId × List String)}

theorem lookup_assign_self : (assign device ids known).lookup device = some ids := by
  have fresh : (known.filter (·.1 != device)).lookup device = none := by
    refine List.lookup_eq_none_iff.2 fun entry hentry => ?_
    have other := (List.mem_filter.1 hentry).2
    simp only [bne_iff_ne, ne_eq] at other ⊢
    exact fun same => other same.symm
  rw [assign, List.lookup_append, fresh]
  simp

theorem lookup_assign_of_ne (apart : other ≠ device) :
    (assign device ids known).lookup other = known.lookup other := by
  have apart : (other == device) = false := beq_false_of_ne apart
  rw [assign, List.lookup_append]
  simp only [List.lookup_cons, apart, List.lookup_nil, Option.or_none]
  induction known with
  | nil => rfl
  | cons entry rest ih =>
    obtain ⟨d, names⟩ := entry
    by_cases own : d = device
    · subst own
      simpa [List.lookup_cons, apart] using ih
    · simp [own, List.lookup_cons, ih]

theorem lookup_foldl_assign_of_notMem (absent : device ∉ entries.map Prod.fst) :
    (entries.foldl (fun known (device, ids) => assign device ids known) known).lookup device =
      known.lookup device := by
  induction entries generalizing known with
  | nil => rfl
  | cons entry rest ih =>
    rw [List.map_cons, List.mem_cons, not_or] at absent
    rw [List.foldl_cons, ih absent.2, lookup_assign_of_ne absent.1]

/-- What is recorded for devices of different names can be looked up. -/
theorem lookup_foldl_assign (distinct : (entries.map Prod.fst).Nodup)
    (recorded : (device, ids) ∈ entries) :
    (entries.foldl (fun known (device, ids) => assign device ids known) known).lookup device =
      some ids := by
  induction entries generalizing known with
  | nil => cases recorded
  | cons entry rest ih =>
    rw [List.map_cons, List.nodup_cons] at distinct
    rw [List.foldl_cons]
    rcases List.mem_cons.1 recorded with rfl | later
    · rw [lookup_foldl_assign_of_notMem distinct.1, lookup_assign_self]
    · exact ih distinct.2 later

/-- What is assigned to a device on which some backend supports a test is all that do, in order. -/
theorem lookup_assignments {test : TestCase} {device : Device} (distinct : pool.deviceIds.Nodup)
    (inPool : device ∈ pool.devices) (supported : Backend.supporting backends device test ≠ []) :
    (assignments pool backends test).lookup device.id =
      some (Backend.supporting backends device test) := by
  unfold assignments
  refine lookup_foldl_assign ?_ ?_
  · have names : (pool.devices.map fun d => (d.id, Backend.supporting backends d test)).map Prod.fst =
        pool.deviceIds := by
      rw [List.map_map]
      rfl
    exact (names ▸ distinct).sublist (List.filter_sublist.map Prod.fst)
  · refine List.mem_filter.2 ⟨List.mem_map_of_mem inPool, ?_⟩
    simpa using supported

/-! ## Items -/

theorem prepareItem_eq_ok_iff : prepareItem pool backends item = .ok ready ↔
    ready = { item.excluding (unsupported pool backends item.test) with
      backends := assignments pool backends item.test } ∧ ready.compatibleIn pool = true := by
  unfold prepareItem
  dsimp only
  split
  · rename_i fits
    constructor
    · intro same
      cases same
      exact ⟨rfl, fits⟩
    · rintro ⟨rfl, -⟩
      rfl
  · rename_i refused
    constructor
    · nofun
    · rintro ⟨rfl, fits⟩
      exact absurd fits refused

/-- A prepared item may run only where the item may that it was prepared from. -/
theorem compatible_of_prepareItem (prepared : prepareItem pool backends item = .ok ready)
    (fits : ready.compatible device = true) : item.compatible device = true := by
  obtain ⟨rfl, -⟩ := prepareItem_eq_ok_iff.1 prepared
  rw [WorkItem.compatible_iff] at fits ⊢
  exact ⟨fun excluded => fits.1 (WorkItem.mem_addDevices.2 (.inl excluded)), fits.2⟩

/-- **On a device that may run it a prepared item names the backends that support its test**, and there
is one. -/
theorem backendsFor_of_prepareItem {device : Device} (distinct : pool.deviceIds.Nodup)
    (prepared : prepareItem pool backends item = .ok ready) (inPool : device ∈ pool.devices)
    (fits : ready.compatible device.id = true) :
    Backend.supporting backends device item.test ≠ [] ∧
      ready.backendsFor device.id = Backend.supporting backends device item.test := by
  obtain ⟨rfl, -⟩ := prepareItem_eq_ok_iff.1 prepared
  have supported : Backend.supporting backends device item.test ≠ [] := by
    intro none
    refine (WorkItem.compatible_iff.1 fits).1 (WorkItem.mem_addDevices.2 (.inr ?_))
    exact List.mem_map.2 ⟨device, List.mem_filter.2 ⟨inPool, by simp [none]⟩, rfl⟩
  refine ⟨supported, ?_⟩
  rw [WorkItem.backendsFor]
  simp only [lookup_assignments distinct inPool supported, Option.getD_some]

/-- Every item of a prepared suite was prepared from one of those given. -/
theorem exists_of_mem_prepare {items prepared : List WorkItem}
    (h : prepare pool items backends = .ok prepared) (ready_mem : ready ∈ prepared) :
    ∃ item ∈ items, prepareItem pool backends item = .ok ready := by
  obtain ⟨item, first, own⟩ := exists_of_forall₂ (mapM_eq_ok_iff.1 h) ready_mem
  exact ⟨item, (WorkQueue.firsts_sublist items).subset first, own⟩

end Suite

end TestFleet
