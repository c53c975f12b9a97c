import TestFleet.Proofs.Suite
/-!
# What preparing a suite comes to

Of a list of tests a pool keeps those that one of its devices may run, each test once, as the first
of its descriptors has it (`Suite.kept`). Preparation goes well just if each of them can run
somewhere in the pool, and then gives one item for each, in their order, that names the devices and
backends for it (`Suite.Prepared`). Otherwise the first that can run nowhere is told
(`Suite.prepared_exactly`).
-/
namespace TestFleet

/-! ## Listed tests -/

instance (d : TestDescriptor) (device : DeviceId) : Decidable (d.Allows device) :=
  inferInstanceAs (Decidable (_ ∧ _))

namespace TestDescriptor

/-- Some device of the pool may run the listed test. -/
def AvailableIn (d : TestDescriptor) (pool : DevicePool) : Prop :=
  ∃ device ∈ pool.devices, d.Allows device.id

instance (d : TestDescriptor) (pool : DevicePool) : Decidable (d.AvailableIn pool) :=
  inferInstanceAs (Decidable (∃ device ∈ pool.devices, _))

/-- Some device of the pool may run the listed test, and some backend can run it there. -/
def RunnableIn {W : Type} (d : TestDescriptor) (pool : DevicePool) (backends : List (Backend W)) :
    Prop :=
  ∃ device ∈ pool.devices, d.Allows device.id ∧ ∃ b ∈ backends, b.supports device d.test = true

theorem availableIn_iff {d : TestDescriptor} {pool : DevicePool} :
    d.AvailableIn pool ↔ d.item.compatibleIn pool = true := by
  simp only [AvailableIn, allows_iff, WorkItem.compatibleIn, DevicePool.deviceIds, List.any_map,
    List.any_eq_true, Function.comp_apply]

end TestDescriptor

namespace Suite

variable {W : Type} {pool : DevicePool} {backends : List (Backend W)} {device : Device}
  {test : TestCase}

/-- What a pool keeps of a list of tests: of those that some device of it may run, the first of each
test, in order. -/
def kept (pool : DevicePool) (tests : List TestDescriptor) : List TestDescriptor :=
  firstOfEach (·.test.key) (tests.filter (·.AvailableIn pool))

theorem firsts_itemsFor (pool : DevicePool) (tests : List TestDescriptor) :
    WorkQueue.firsts (itemsFor pool tests) = (kept pool tests).map TestDescriptor.item := by
  have available : tests.filter (fun d => decide (d.AvailableIn pool)) =
      tests.filter ((·.compatibleIn pool) ∘ TestDescriptor.item) := by
    refine List.filter_congr fun d _ => ?_
    simp only [Function.comp_apply, TestDescriptor.availableIn_iff, Bool.decide_eq_true]
  rw [itemsFor, List.filter_map, WorkQueue.firsts_eq, firstOfEach_map, kept, available]
  rfl

/-! ## What an item is prepared to -/

theorem supporting_ne_nil_iff :
    Backend.supporting backends device test ≠ [] ↔
      ∃ b ∈ backends, b.supports device test = true := by
  rw [Backend.supporting, ne_eq, List.map_eq_nil_iff, List.filter_eq_nil_iff]
  simp only [not_forall, not_not, exists_prop]

theorem mem_unsupported_iff (distinct : pool.deviceIds.Nodup) (inPool : device ∈ pool.devices) :
    device.id ∈ unsupported pool backends test ↔ Backend.supporting backends device test = [] := by
  simp only [unsupported, List.mem_map, List.mem_filter, List.isEmpty_iff]
  constructor
  · rintro ⟨other, ⟨there, none⟩, same⟩
    rwa [← List.inj_on_of_nodup_map distinct there inPool same]
  · exact fun none => ⟨device, ⟨inPool, none⟩, rfl⟩

/-- To every device of the pool all backends are assigned that support the test there, in order. -/
theorem getD_lookup_assignments (distinct : pool.deviceIds.Nodup) (inPool : device ∈ pool.devices) :
    ((assignments pool backends test).lookup device.id).getD [] =
      Backend.supporting backends device test := by
  by_cases supported : Backend.supporting backends device test = []
  · have absent : (assignments pool backends test).lookup device.id = none := by
      unfold assignments
      rw [lookup_foldl_assign_of_notMem]
      · rfl
      · intro recorded
        obtain ⟨⟨id, ids⟩, entry, rfl⟩ := List.mem_map.1 recorded
        obtain ⟨listed, full⟩ := List.mem_filter.1 entry
        obtain ⟨other, there, same⟩ := List.mem_map.1 listed
        obtain ⟨own, rfl⟩ := Prod.mk.inj same
        rw [List.inj_on_of_nodup_map distinct there inPool own, supported] at full
        cases full
    rw [absent, supported]
    rfl
  · rw [lookup_assignments distinct inPool supported]
    rfl

/-- What an item is prepared to, whether some device of the pool is left for it or not. -/
def readied (pool : DevicePool) (backends : List (Backend W)) (item : WorkItem) : WorkItem :=
  { item.excluding (unsupported pool backends item.test) with
    backends := assignments pool backends item.test }

theorem compatible_readied_iff {item : WorkItem} (distinct : pool.deviceIds.Nodup)
    (inPool : device ∈ pool.devices) :
    (readied pool backends item).compatible device.id = true ↔
      item.compatible device.id = true ∧ Backend.supporting backends device item.test ≠ [] := by
  have excluded : device.id ∈ (readied pool backends item).excluded ↔
      device.id ∈ item.excluded ∨ Backend.supporting backends device item.test = [] := by
    rw [← mem_unsupported_iff distinct inPool]
    exact WorkItem.mem_addDevices
  have included : (readied pool backends item).included = item.included := rfl
  rw [WorkItem.compatible_iff, WorkItem.compatible_iff, excluded, included, not_or]
  exact ⟨fun ⟨⟨open_, supported⟩, listed⟩ => ⟨⟨open_, listed⟩, supported⟩,
    fun ⟨⟨open_, listed⟩, supported⟩ => ⟨⟨open_, supported⟩, listed⟩⟩

theorem prepareItem_eq (item : WorkItem) :
    prepareItem pool backends item =
      if (readied pool backends item).compatibleIn pool then .ok (readied pool backends item)
      else .error (.noCompatibleDevice pool.id.name item.test.display) := rfl

/-- The item of a listed test that a pool has prepared: the same test, not failed yet, on just those
devices of the pool that may run it and that some backend supports, each with all backends that do,
in their order. -/
structure Prepared (pool : DevicePool) (backends : List (Backend W)) (d : TestDescriptor)
    (item : WorkItem) : Prop where
  test : item.test = d.test
  failures : item.failures = 0
  compatible : ∀ device ∈ pool.devices, item.compatible device.id = true ↔
    d.Allows device.id ∧ ∃ b ∈ backends, b.supports device d.test = true
  backends : ∀ device ∈ pool.devices, item.backendsFor device.id =
    (backends.filter fun b => b.supports device d.test).map (·.id)

section Descriptors

variable {d : TestDescriptor}

theorem prepared_readied (distinct : pool.deviceIds.Nodup) :
    Prepared pool backends d (readied pool backends d.item) where
  test := rfl
  failures := rfl
  compatible device inPool := by
    rw [compatible_readied_iff distinct inPool, supporting_ne_nil_iff, TestDescriptor.allows_iff]
    rfl
  backends _ inPool := getD_lookup_assignments distinct inPool

theorem runnableIn_iff (distinct : pool.deviceIds.Nodup) :
    d.RunnableIn pool backends ↔ (readied pool backends d.item).compatibleIn pool = true := by
  simp only [TestDescriptor.RunnableIn, WorkItem.compatibleIn, DevicePool.deviceIds, List.any_map,
    List.any_eq_true, Function.comp_apply]
  refine exists_congr fun device => and_congr_right fun inPool => ?_
  exact ((prepared_readied distinct).compatible device inPool).symm

theorem prepareItem_of_runnableIn (distinct : pool.deviceIds.Nodup)
    (runs : d.RunnableIn pool backends) :
    prepareItem pool backends d.item = .ok (readied pool backends d.item) := by
  rw [prepareItem_eq, if_pos ((runnableIn_iff distinct).1 runs)]

theorem prepareItem_of_not_runnableIn (distinct : pool.deviceIds.Nodup)
    (stuck : ¬ d.RunnableIn pool backends) :
    prepareItem pool backends d.item =
      .error (.noCompatibleDevice pool.id.name d.test.display) := by
  rw [prepareItem_eq, if_neg fun fits => stuck ((runnableIn_iff distinct).2 fits)]
  rfl

theorem exists_prepareItem_iff (distinct : pool.deviceIds.Nodup) :
    (∃ ready, prepareItem pool backends d.item = .ok ready) ↔ d.RunnableIn pool backends := by
  constructor
  · rintro ⟨ready, prepared⟩
    by_contra stuck
    cases prepared.symm.trans (prepareItem_of_not_runnableIn distinct stuck)
  · exact fun runs => ⟨_, prepareItem_of_runnableIn distinct runs⟩

end Descriptors

/-! ## Suites -/

variable {source : SuiteSource} {files : Files.Tree} {tests : List TestDescriptor}

theorem prepare_itemsFor (pool : DevicePool) (backends : List (Backend W))
    (tests : List TestDescriptor) :
    prepare pool (itemsFor pool tests) backends =
      ((kept pool tests).map TestDescriptor.item).mapM (prepareItem pool backends) := by
  rw [prepare, firsts_itemsFor]

theorem exists_prepare_iff (distinct : pool.deviceIds.Nodup) :
    (∃ ready, prepare pool (itemsFor pool tests) backends = .ok ready) ↔
      ∀ d ∈ kept pool tests, d.RunnableIn pool backends := by
  rw [prepare_itemsFor, exists_mapM_eq_ok_iff]
  simp only [List.forall_mem_map, exists_prepareItem_iff distinct]

theorem prepared_of_prepare (distinct : pool.deviceIds.Nodup) {ready : List WorkItem}
    (h : prepare pool (itemsFor pool tests) backends = .ok ready) :
    List.Forall₂ (Prepared pool backends) (kept pool tests) ready := by
  rw [prepare_itemsFor, mapM_eq_ok_iff, List.forall₂_map_left_iff] at h
  refine h.imp fun d item own => ?_
  have runs := (exists_prepareItem_iff distinct).1 ⟨item, own⟩
  cases own.symm.trans (prepareItem_of_runnableIn distinct runs)
  exact prepared_readied distinct

theorem exists_of_prepare_error (distinct : pool.deviceIds.Nodup) {e : ConfigError}
    (h : prepare pool (itemsFor pool tests) backends = .error e) :
    ∃ ahead d behind, kept pool tests = ahead ++ d :: behind ∧
      (∀ x ∈ ahead, x.RunnableIn pool backends) ∧ ¬ d.RunnableIn pool backends ∧
      e = .noCompatibleDevice pool.id.name d.test.display := by
  rw [prepare_itemsFor] at h
  obtain ⟨early, item, late, split, fine, failed⟩ := exists_of_mapM_error h
  obtain ⟨ahead, rest, keeps, rfl, others⟩ := List.map_eq_append_iff.1 split
  obtain ⟨d, behind, rfl, rfl, rfl⟩ := List.map_eq_cons_iff.1 others
  have stuck : ¬ d.RunnableIn pool backends := by
    intro runs
    cases failed.symm.trans (prepareItem_of_runnableIn distinct runs)
  refine ⟨ahead, d, behind, keeps, fun x hx => ?_, stuck, ?_⟩
  · exact (exists_prepareItem_iff distinct).1 (fine _ (List.mem_map_of_mem hx))
  · cases failed.symm.trans (prepareItem_of_not_runnableIn distinct stuck)
    rfl

/-- **A suite is prepared exactly.** Whatever tests a source lists, a pool of different serials that
loads and prepares them is given one item for each test it keeps, in order, each with its devices
and their backends, if each of these tests can run in the pool; and otherwise the error names the
first of them that cannot. -/
theorem prepared_exactly (read : Suite.tests source files = .ok tests)
    (distinct : pool.deviceIds.Nodup) :
    ∃ items, load source files pool = .ok items ∧
      ((∃ ready, prepare pool items backends = .ok ready) ↔
        ∀ d ∈ kept pool tests, d.RunnableIn pool backends) ∧
      (∀ ready, prepare pool items backends = .ok ready →
        List.Forall₂ (Prepared pool backends) (kept pool tests) ready) ∧
      ∀ e, prepare pool items backends = .error e →
        ∃ ahead d behind, kept pool tests = ahead ++ d :: behind ∧
          (∀ x ∈ ahead, x.RunnableIn pool backends) ∧ ¬ d.RunnableIn pool backends ∧
          e = .noCompatibleDevice pool.id.name d.test.display := by
  refine ⟨itemsFor pool tests, ?_, exists_prepare_iff distinct,
    fun ready => prepared_of_prepare distinct, fun e => exists_of_prepare_error distinct⟩
  rw [load, read]
  rfl

/-- A new device and an old one. -/
def ages : DevicePool :=
  ⟨⟨"p"⟩, [{ Device.bare "a" with platformVersion := 30 },
    { Device.bare "b" with platformVersion := 21 }]⟩

/-- A test of a method. -/
def testOf (method : String) : TestCase := ⟨"", "C", method, TestCase.defaultKind, [], []⟩

/-- A suite that repeats a test, first without device b, and has a test of another pool. -/
def repeating : List TestDescriptor :=
  [⟨testOf "one", [], ["b"]⟩, ⟨testOf "away", ["z"], []⟩, ⟨testOf "two", [], []⟩,
    ⟨testOf "one", [], []⟩]

/-- A backend for new devices, and one for all. -/
def modernAndAny : List (Backend Unit) :=
  let passes (ctx : AttemptContext) : Action Unit BackendError TestResult :=
    .give (.ofStatus ctx.identity .pass default)
  [⟨"modern", fun device _ => 26 ≤ device.platformVersion, passes⟩,
    ⟨"any", fun _ _ => true, passes⟩]

/-- Of the four tests two are kept, without the repeated one and that of another pool, and each is ready
for its devices: the first for the one that it does not exclude, the other for both. -/
theorem prepared_of_repeating :
    Suite.tests (.inline repeating) ⟨[], [], [], []⟩ = .ok repeating ∧ ages.deviceIds.Nodup ∧
      ∃ items, load (.inline repeating) ⟨[], [], [], []⟩ ages = .ok items ∧
        ∃ ready, prepare ages items modernAndAny = .ok ready ∧
          List.Forall₂ (Prepared ages modernAndAny)
            [⟨testOf "one", [], ["b"]⟩, ⟨testOf "two", [], []⟩] ready := by
  have distinct : ages.deviceIds.Nodup := by decide
  obtain ⟨items, loaded, goesWell, exact_, -⟩ :=
    @prepared_exactly Unit ages modernAndAny (.inline repeating) ⟨[], [], [], []⟩ repeating rfl
      distinct
  have keeps : kept ages repeating = [⟨testOf "one", [], ["b"]⟩, ⟨testOf "two", [], []⟩] := by
    decide
  rw [keeps] at goesWell exact_
  have runs (d : TestDescriptor) (allows : d.Allows ⟨"a"⟩) : d.RunnableIn ages modernAndAny :=
    ⟨_, List.mem_cons_self, allows, _, List.mem_cons_self, rfl⟩
  obtain ⟨ready, prepared⟩ := goesWell.2 fun d hd => runs d (by revert d; decide)
  exact ⟨rfl, distinct, items, loaded, ready, prepared, exact_ ready prepared⟩

end Suite

end TestFleet
