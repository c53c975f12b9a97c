import TestFleet.Proofs.Run.Pool
/-!
# Every item has one result

An item passes from the queue into a worker's hands, back into the queue as its next attempt, and at
last among the results. What a pool has in these three places are its *entries*; they are the tests
of its plan, each once (`PoolState.Accounted`). Only a fatal error or a panic of the reporter makes a
worker drop an item, and after a fatal error no pool concludes. So a pool that concludes under a
reporter that never panics has one result for each of its items, and no others.
-/
namespace TestFleet

open WorkItem (Distinct)

variable {W : Type}

/-- The reporter takes every final result without a panic. -/
def Reporter.IsQuiet (reporter : Reporter W) : Prop :=
  ∀ result w m, (reporter.tested result w).1 ≠ .panicked m

/-- Whether an item at a stage has still to be accounted for. -/
def Stage.isOpen : Stage → Bool
  | .attempting | .deciding _ | .offering .. | .announcing .. | .keeping _ => true
  | .stashing _ | .releasing _ | .crashing _ => false

namespace Worker

/-- The item in the worker's hands, if it has still to be accounted for. -/
def open? (w : Worker W) : Option WorkItem :=
  match w.phase with
  | .busy item stage => if stage.isOpen then some item else none
  | _ => none

/-- Whether the worker is about to call the run off. -/
def isFailing (w : Worker W) : Bool :=
  match w.phase with
  | .busy _ (.releasing (some _)) | .cancelling _ => true
  | _ => false

theorem open?_eq_none {w : Worker W} (idle : w.isBusy = false) : w.open? = none := by
  unfold isBusy at idle
  unfold open?
  cases phase : w.phase <;> simp_all

end Worker

/-- The tests that are queued, in hand, or have a result. -/
def entries (queue : WorkQueue) (inHand : List WorkItem) (collector : Collector) : List TestKey :=
  queue.items.map WorkItem.key ++ inHand.map WorkItem.key ++
    collector.results.map fun r => r.test.key

section Entries

variable (queue : WorkQueue) (inHand : List WorkItem) (collector : Collector)

theorem entries_drop (item : WorkItem) :
    (entries queue [item] collector).Perm (entries queue [] collector ++ [item.key]) := by
  refine List.perm_iff_count.2 fun k => ?_
  simp only [entries, List.map_cons, List.map_nil, List.count_append, List.count_nil]
  omega

theorem entries_offer (item : WorkItem) (inFlight : Nat) :
    (entries ⟨queue.items ++ [item], inFlight⟩ inHand collector).Perm
      (entries queue inHand collector ++ [item.key]) := by
  refine List.perm_iff_count.2 fun k => ?_
  simp only [entries, List.map_append, List.map_cons, List.map_nil, List.count_append]
  omega

theorem entries_push (r : TestResult) :
    (entries queue inHand (collector.push r)).Perm
      (entries queue inHand collector ++ [r.test.key]) := by
  refine List.perm_iff_count.2 fun k => ?_
  simp only [entries, Collector.push, List.map_append, List.map_cons, List.map_nil,
    List.count_append]
  omega

end Entries

/-! ## Steps of a worker -/

section Steps

variable [Hosted W] {setting : Setting W}

/-- A step with an item makes no entry, and loses one only by a fatal error or by a panic of the
reporter. -/
theorem StageChange.entries {ctx : AttemptContext} {s s' : Shared W} {stage stage' : Stage}
    (h : StageChange setting ctx s stage stage' s') (sound : stage.Sound setting ctx) :
    ∃ lost,
      (TestFleet.entries s.queue (if stage.isOpen then [ctx.item] else []) s.collector).Perm
        (TestFleet.entries s'.queue (if stage'.isOpen then [ctx.item] else []) s'.collector ++
          lost) ∧
      (lost = [] ∨ (∃ e, stage' = .releasing (some e)) ∨ ¬ setting.reporter.IsQuiet) := by
  -- After a fatal error, and in a second panic of the reporter, the item is dropped.
  cases h with
  | violated => exact ⟨_, entries_drop s.queue s.collector ctx.item, .inr (.inl ⟨_, rfl⟩)⟩
  | crashed told =>
    refine ⟨_, entries_drop s.queue s.collector ctx.item, .inr (.inr fun quiet => ?_)⟩
    exact quiet _ _ _ (congrArg Prod.fst told)
  | @offered next r queue accepted =>
    obtain ⟨-, -, rfl⟩ := WorkQueue.offer_eq_ok_iff.1 accepted
    have key : ctx.item.key = next.key := by rw [sound.2, WorkItem.key_nextAttempt]
    have moved := entries_drop s.queue s.collector ctx.item
    rw [key] at moved
    refine ⟨[], ?_, .inl rfl⟩
    rw [List.append_nil]
    exact moved.trans (entries_offer s.queue [] s.collector next s.queue.inFlight).symm
  | @kept r =>
    have key : ctx.item.key = r.test.key :=
      (congrArg (fun i : ResultIdentity => i.test.key) sound).symm
    have moved := entries_drop s.queue s.collector ctx.item
    rw [key] at moved
    refine ⟨[], ?_, .inl rfl⟩
    rw [List.append_nil]
    exact moved.trans (entries_push s.queue [] s.collector r).symm
  | _ => exact ⟨[], by rw [List.append_nil]; exact .refl _, .inl rfl⟩

namespace Worker

variable {pool : PoolContext} {w w' : Worker W} {s s' : Shared W}

omit [Hosted W] in
theorem toList_open? {item : WorkItem} {stage : Stage} (phase : w.phase = .busy item stage) :
    w.open?.toList = if stage.isOpen then [item] else [] := by
  simp only [open?, phase]
  split <;> rfl

/-- A step makes no entry, and loses one only as the run is about to be called off or as the reporter
panics. -/
theorem Effect.entries (h : Effect setting pool w s w' s') (sound : w.Sound setting pool) :
    ∃ lost,
      (TestFleet.entries s.queue w.open?.toList s.collector).Perm
        (TestFleet.entries s'.queue w'.open?.toList s'.collector ++ lost) ∧
      (lost = [] ∨ w'.isFailing = true ∨ ¬ setting.reporter.IsQuiet) := by
  cases h with
  | none idle idle' queue collector =>
    refine ⟨[], ?_, .inl rfl⟩
    rw [queue, collector, open?_eq_none idle, open?_eq_none idle', List.append_nil]
  | @take item idle phase' claimed collector =>
    have split := (WorkQueue.perm_of_claim? claimed).map WorkItem.key
    refine ⟨[], List.perm_iff_count.2 fun k => ?_, .inl rfl⟩
    have tally := split.count_eq k
    simp only [open?_eq_none idle, toList_open? phase', collector, TestFleet.entries, Stage.isOpen,
      if_true, Option.toList_none, List.map_cons, List.map_nil, List.count_append, List.count_cons,
      List.count_nil] at tally ⊢
    omega
  | work phase phase' change =>
    simp only [Sound, phase] at sound
    rw [toList_open? phase, toList_open? phase']
    obtain ⟨lost, perm, why⟩ := change.entries sound
    refine ⟨lost, perm, why.imp_right (Or.imp_left ?_)⟩
    rintro ⟨e, rfl⟩
    simp only [isFailing, phase']
  | @drop item stage phase spent idle' items collector =>
    have closed : stage.isOpen = false := by
      cases stage <;> simp_all [Stage.isSpent, Stage.isOpen]
    refine ⟨[], ?_, .inl rfl⟩
    rw [toList_open? phase, closed, open?_eq_none idle', collector, TestFleet.entries,
      TestFleet.entries, items, List.append_nil]
    exact .refl _

/-- A worker that is about to call the run off does so. -/
theorem Change.isFailing (h : Change setting pool w s w' s') (failing : w.isFailing = true) :
    w'.isFailing = true ∨ s'.cancelled = true := by
  cases h with
  | violate => exact .inl rfl
  | cancel => exact .inr rfl
  | work phase change =>
    simp only [Worker.isFailing, phase] at failing
    cases change <;> simp at failing
  | start phase | expire phase | claim phase | heed phase | quit phase | release phase | crash phase
  | abandon phase | leave phase => simp [Worker.isFailing, phase] at failing

end Worker

/-! ## Steps of a pool -/

namespace PoolState

variable {p p' : PoolState W} {c c' : Common W} {m : PoolMove}

/-- The tests of the pool that are queued, in hand, or have a result. -/
def entries (p : PoolState W) : List TestKey :=
  TestFleet.entries p.queue (p.workers.filterMap Worker.open?) p.collector

/-- The tests that the pool is to run. -/
def planned (p : PoolState W) : List TestKey := p.plan.items.map WorkItem.key

/-- Every planned test is queued, in hand or has a result, and there is nothing besides, unless the
run is called off or about to be. -/
def Covered (p : PoolState W) (cancelled : Bool) : Prop :=
  p.planned.Perm p.entries ∨ cancelled = true ∨ ∃ w ∈ p.workers, w.isFailing = true

/-- The planned tests are accounted for, in the way of the phase that the pool is in. -/
structure Accounted (setting : Setting W) (p : PoolState W) (cancelled : Bool) : Prop where
  sound : p.Sound setting
  fits : match p.phase with
    | .planned | .refused _ | .working => p.Covered cancelled
    | .accounting left _ =>
      p.planned.Perm (left.map WorkItem.key ++ p.collector.results.map fun r => r.test.key)
    | .closing result => p.planned.Perm (result.results.map fun r => r.test.key)
    | .aborting .. | .finished _ | .lost _ => True

omit [Hosted W] in
theorem Covered.mono {off off' : Bool} (covered : p.Covered off) (stays : off = true → off' = true) :
    p.Covered off' :=
  covered.imp_right (Or.imp_left stays)

omit [Hosted W] in
/-- The tests are accounted for when the run is called off as well. -/
theorem Accounted.calledOff {off : Bool} (h : p.Accounted setting off) :
    p.Accounted setting true := by
  refine ⟨h.sound, ?_⟩
  have fits := h.fits
  cases phase : p.phase with
  | planned => exact .inr (.inl rfl)
  | refused e => exact .inr (.inl rfl)
  | working => exact .inr (.inl rfl)
  | accounting left count => simpa only [phase] using fits
  | closing result => simpa only [phase] using fits
  | _ => trivial

omit [Hosted W] in
theorem filterMap_cons_toList {α : Type} (f : Worker W → Option α) (w : Worker W)
    (workers : List (Worker W)) :
    (w :: workers).filterMap f = (f w).toList ++ workers.filterMap f := by
  cases of_w : f w <;> simp [of_w]

/-- What is found at the workers changes as what is found at one of them does. -/
theorem Shifts.exists_perm_filterMap {α : Type} {j : Nat} {w w' : Worker W}
    (shifts : Shifts setting p c j w w' p' c') (look : Worker W → Option α) :
    ∃ others, (p.workers.filterMap look).Perm ((look w).toList ++ others) ∧
      (p'.workers.filterMap look).Perm ((look w').toList ++ others) := by
  obtain ⟨others, before, after⟩ := shifts.exists_others
  refine ⟨others.filterMap look, ?_, ?_⟩
  · rw [← filterMap_cons_toList]
    exact before.filterMap look
  · rw [← filterMap_cons_toList]
    exact after.filterMap look

/-- The entries of a pool change as those of its worker do. -/
theorem Shifts.entries {j : Nat} {w w' : Worker W} (shifts : Shifts setting p c j w w' p' c')
    (sound : p.Sound setting) :
    ∃ lost, p.entries.Perm (p'.entries ++ lost) ∧
      (lost = [] ∨ w'.isFailing = true ∨ ¬ setting.reporter.IsQuiet) := by
  obtain ⟨others, before, after⟩ := shifts.exists_perm_filterMap Worker.open?
  obtain ⟨lost, perm, why⟩ := shifts.effect.entries (sound w shifts.mem)
  refine ⟨lost, List.perm_iff_count.2 fun k => ?_, why⟩
  have tally := perm.count_eq k
  have tally_before := (before.map WorkItem.key).count_eq k
  have tally_after := (after.map WorkItem.key).count_eq k
  simp only [List.map_append, List.count_append] at tally_before tally_after
  simp only [PoolState.entries, TestFleet.entries, shared, List.count_append] at tally ⊢
  omega

/-- When a worker is about to call the run off, one is so after a step, or the run is called off. -/
theorem Change.failing (h : Change setting p c m p' c')
    (failing : ∃ w ∈ p.workers, w.isFailing = true) :
    (∃ w ∈ p'.workers, w.isFailing = true) ∨ c'.cancelled = true := by
  obtain ⟨v, hv, failing⟩ := failing
  rcases h.own_or_shifts with rfl | ⟨j, w, w', -, shifts⟩
  · exact .inl ⟨v, h.goesOn.workers ▸ hv, failing⟩
  · rcases shifts.eq_or_mem' hv with rfl | other
    · rcases shifts.cause with change | ⟨⟨outcome, stopped⟩, -⟩
      · exact (change.isFailing failing).imp_left fun failing => ⟨w', shifts.mem', failing⟩
      · simp [Worker.isFailing, stopped] at failing
    · exact .inl ⟨v, other, failing⟩

/-- A step of a worker loses no planned test, unless the run is called off or about to be. -/
theorem Covered.shifts {j : Nat} {w w' : Worker W} (covered : p.Covered c.cancelled)
    (h : Change setting p c m p' c') (shifts : Shifts setting p c j w w' p' c')
    (quiet : setting.reporter.IsQuiet) (sound : p.Sound setting) : p'.Covered c'.cancelled := by
  rcases covered with fits | off | failing
  · obtain ⟨lost, perm, rfl | failing | loud⟩ := shifts.entries sound
    · rw [List.append_nil] at perm
      unfold Covered planned
      rw [h.plan]
      exact .inl (fits.trans perm)
    · exact .inr (.inr ⟨w', shifts.mem', failing⟩)
    · exact absurd quiet loud
  · exact .inr (.inl (h.cancelled off))
  · exact .inr ((h.failing failing).symm)

theorem Change.accounted (h : Change setting p c m p' c') (quiet : setting.reporter.IsQuiet)
    (accounted : p.Accounted setting c.cancelled) : p'.Accounted setting c'.cancelled := by
  refine ⟨h.sound accounted.sound, ?_⟩
  have fits := accounted.fits
  rcases h.own_or_shifts with rfl | ⟨j, w, w', -, shifts⟩
  · cases h.turn with
    | begin phase underway =>
      simp only [phase] at fits
      rcases underway with rfl | ⟨e, rfl⟩ <;> exact Covered.mono fits h.cancelled
    | out goesOn out => cases phase : p'.phase <;> simp_all [PoolPhase.isOut]
    | drain phase gone called =>
      simp only [phase] at fits
      have idle : p.workers.filterMap Worker.open? = [] := by
        refine List.filterMap_eq_nil_iff.2 fun w hw => ?_
        simp only [Worker.open?, Worker.isGone_iff.1 (gone w hw)]
      have steady : ¬ ∃ w ∈ p.workers, w.isFailing = true := by
        rintro ⟨w, hw, failing⟩
        simp [Worker.isFailing, Worker.isGone_iff.1 (gone w hw)] at failing
      have fits := fits.resolve_right (not_or.2 ⟨by simp [called], steady⟩)
      simp only [entries, TestFleet.entries, idle, List.map_nil, List.append_nil] at fits
      exact fits
    | @account item left unreachable count r collector isUnreachable phase settled =>
      simp only [phase] at fits
      obtain ⟨key, results⟩ := key_of_settleLeft settled
      refine fits.trans (List.perm_iff_count.2 fun k => ?_)
      simp only [at_, Collector.push, results, key, List.map_append, List.map_cons, List.map_nil,
        List.count_append, List.count_cons, List.count_nil]
      omega
    | conclude phase =>
      simp only [phase, List.map_nil, List.nil_append] at fits
      exact fits
  · simp only [shifts.phase, shifts.phase'] at fits ⊢
    exact Covered.shifts fits h shifts quiet accounted.sound

end PoolState

/-! ## Runs -/

omit [Hosted W] in
/-- Before a run each test of the plan is queued once. -/
theorem PoolState.entries_ofPlan (plan : PoolPlan) :
    (PoolState.ofPlan (W := W) plan).entries =
      (WorkQueue.firsts plan.items).map WorkItem.key := by
  have idle : (PoolState.ofPlan (W := W) plan).workers.filterMap Worker.open? = [] := by
    refine List.filterMap_eq_nil_iff.2 fun w hw => ?_
    simp only [Worker.open?, phase_of_mem_ofPlan hw]
  rw [PoolState.entries, idle]
  simp [TestFleet.entries, ofPlan, WorkQueue.ofItems, Collector.empty]

/-- In every run, whatever its backends, rules and devices do and whoever moves when, a pool that
concludes without a fatal error has exactly one result for each of its items, and no other result,
if the reporter never panics. -/
theorem one_result_per_item {world : W} {quota i : Nat} {plans : List PoolPlan} {plan : PoolPlan}
    {s : RunState W} {result : PoolResult} (quiet : setting.reporter.IsQuiet)
    (planned : plans[i]? = some plan) (distinct : Distinct plan.items)
    (reachable : RunState.Reachable setting (.ofPlans world quota plans) s)
    (concluded : s.conclusion? i = some result) :
    (∀ item ∈ plan.items, ∃ r, result.results.filter (fun r => r.test.key == item.key) = [r]) ∧
      (∀ r ∈ result.results, ∃ item ∈ plan.items, r.test.key = item.key) := by
  obtain ⟨p, at_i, closing⟩ := RunState.conclusion?_eq_some_iff.1 concluded
  obtain ⟨past, trace⟩ := reachable.trace
  obtain ⟨same, accounted⟩ := trace.induct_ofPlans (fun _ p off => p.Accounted setting off)
    (fun plan' planned' => by
      obtain rfl := Option.some.inj (planned.symm.trans planned')
      refine ⟨PoolState.sound_ofPlan setting plan, .inl ?_⟩
      rw [PoolState.entries_ofPlan, WorkQueue.firsts_of_distinct distinct]
      exact .refl _)
    (fun _ _ accounted => accounted.calledOff)
    (fun _ _ _ _ _ _ accounted change => change.accounted quiet accounted) at_i
  obtain rfl := Option.some.inj (planned.symm.trans same)
  have fits := accounted.fits
  simp only [closing] at fits
  constructor
  · intro item hitem
    have once : p.planned.count item.key = 1 :=
      List.count_eq_one_of_mem distinct (List.mem_map_of_mem hitem)
    rw [fits.count_eq, List.count_eq_countP, List.countP_map, List.countP_eq_length_filter] at once
    exact List.length_eq_one_iff.1 once
  · intro r hr
    have known := fits.mem_iff.2 (List.mem_map_of_mem hr)
    obtain ⟨item, hitem, same⟩ := List.mem_map.1 known
    exact ⟨item, hitem, same.symm⟩

end Steps

/-! ## A sample

One test that fails wherever it runs, and a pool of three devices of which one is withdrawn. -/

theorem Reporter.isQuiet_silent : (Reporter.silent : Reporter W).IsQuiet := by
  intro result w m panicked
  cases panicked

namespace Sample

/-- A device of a serial. -/
def device (serial : String) : Device := ⟨⟨serial⟩, "", 0, .phone, []⟩

/-- The test, to be run on any of three devices. -/
def item : WorkItem :=
  { WorkItem.ofTest ⟨"", "Sample", "fails", "unit", [], []⟩ with
    backends := ["a", "b", "c"].map fun serial => (⟨serial⟩, ["failing"]) }

/-- The plan of the pool. -/
def plan : PoolPlan := ⟨⟨⟨"sample"⟩, [device "a", device "b", device "c"]⟩, [item]⟩

/-- Fails every test. -/
def backend : Backend Host :=
  ⟨"failing", fun _ _ => true, fun ctx => .give (.ofStatus ctx.identity .fail default)⟩

/-- Withdraws the device `c`. -/
def withdrawal : Rule Host DeviceContext DeviceSummary where
  name := "withdrawal"
  before ctx := if ctx.device.id.serial = "c" then .fail (.ofMessage "withdrawn") else .give ()
  after _ summary := .give summary

/-- Retries avoid devices that failed. -/
def config : Config where
  devices := default
  suite := default
  rules := { device := [⟨"sample.withdrawal", none, []⟩] }

/-- One backend, one rule, and nobody who listens. -/
def setting : Setting Host where
  context := ⟨default, config, "", default⟩
  registry := Registry.empty.withDeviceRule "sample.withdrawal" fun _ _ => .done [withdrawal]
  backends := [backend]
  reporter := .silent

/-- Before the first move. -/
def start : RunState Host := .ofPlans default 10 [plan]

/-- The pool is entered, and its three workers begin; that of `c` is told to stop. -/
def opening : List RunMove :=
  [.pool 0, .worker 0 0 .proceed, .worker 0 1 .proceed, .worker 0 2 .proceed, .worker 0 2 .proceed]

/-- The test fails on `a` and then on `b`. The worker of `a` has offered the next attempt, and keeps
the one that failed only after the worker of `b` has run the next and kept it. -/
def overtaking : List RunMove :=
  (.worker 0 0 .claim :: .replicate 3 (.worker 0 0 .proceed)) ++
    (.worker 0 1 .claim :: .replicate 5 (.worker 0 1 .proceed)) ++
    .replicate 2 (.worker 0 0 .proceed)

/-- The workers stop, the pool takes note of it, and accounts for what is left. -/
def ending : List RunMove :=
  [.worker 0 0 .quit, .worker 0 0 .proceed, .worker 0 1 .quit, .worker 0 1 .proceed,
    .join 0 0, .join 0 1, .join 0 2, .pool 0, .pool 0, .pool 0]

end Sample

theorem one_result_of_sample : ∃ s result,
    RunState.Reachable Sample.setting Sample.start s ∧ s.conclusion? 0 = some result ∧
      ∃ r, result.results.filter (fun r => r.test.key == Sample.item.key) = [r] := by
  obtain ⟨past, s, trace, concluded⟩ := RunState.exists_trace_of_follow Sample.setting
    Sample.start (Sample.opening ++ Sample.overtaking ++ Sample.ending)
    (fun run => (run.2.conclusion? 0).isSome) (by decide +kernel)
  obtain ⟨result, concluded⟩ := Option.isSome_iff_exists.1 concluded
  refine ⟨s, result, trace.reachable, concluded, ?_⟩
  have distinct : Distinct Sample.plan.items := by decide
  exact (one_result_per_item Reporter.isQuiet_silent rfl distinct trace.reachable concluded).1
    Sample.item List.mem_cons_self

end TestFleet
