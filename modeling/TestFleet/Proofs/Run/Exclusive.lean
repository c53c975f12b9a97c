import TestFleet.Proofs.Run.Eligibility
import TestFleet.Proofs.Run.Outcomes
import TestFleet.Proofs.Run.Termination
/-!
# One attempt at a time

A device has one worker in the whole run, since it is in one pool, and a worker holds one item at a
time. In a pool no test is at two places at once: among the items that are queued, or in flight and not
decided, each test occurs once (`PoolState.Change.pending`). An item that is in flight counts as long as its
attempt is undecided only: the next attempt may be run elsewhere before the first worker has put the
item down. So the next attempt at an item always finds its place in the queue free.
-/
namespace TestFleet

open WorkItem (Distinct)

variable {W : Type}

/-- Whether an attempt has been decided: the next one was offered, or the result is recorded. -/
def Stage.isDecided : Stage → Bool
  | .stashing _ | .releasing none => true
  | _ => false

namespace Worker

/-- The item in the worker's hands, if its attempt is undecided. -/
def undecided? (w : Worker W) : Option WorkItem :=
  match w.phase with
  | .busy item stage => if stage.isDecided then none else some item
  | _ => none

theorem undecided?_eq_none {w : Worker W} (idle : w.isBusy = false) : w.undecided? = none := by
  unfold isBusy at idle
  unfold undecided?
  cases phase : w.phase <;> simp_all

theorem toList_undecided? {w : Worker W} {item : WorkItem} {stage : Stage}
    (phase : w.phase = .busy item stage) :
    w.undecided?.toList = if stage.isDecided then [] else [item] := by
  simp only [undecided?, phase]
  split <;> rfl

theorem mem_offering {w : Worker W} {next : WorkItem} :
    next ∈ w.offering ↔ ∃ item r, w.phase = .busy item (.offering next r) := by
  unfold offering Stage.coming
  cases phase : w.phase with
  | busy item stage => cases stage <;> simp [eq_comm]
  | _ => simp

end Worker

/-- The items of the pool that are queued, or in flight and undecided. -/
def PoolState.pending (p : PoolState W) : List WorkItem :=
  p.queue.items ++ p.workers.filterMap Worker.undecided?

/-- How often a test is among some items. -/
def WorkItem.times (key : TestKey) (items : List WorkItem) : Nat := (items.map WorkItem.key).count key

namespace WorkItem

variable {key : TestKey} {xs ys : List WorkItem}

theorem times_append : times key (xs ++ ys) = times key xs + times key ys := by
  simp [times]

theorem times_perm (perm : xs.Perm ys) : times key xs = times key ys := (perm.map _).count_eq key

theorem times_singleton_congr {x y : WorkItem} (same : x.key = y.key) :
    times key [x] = times key [y] := by
  simp [times, same]

theorem distinct_iff_times : Distinct xs ↔ ∀ key, times key xs ≤ 1 := List.nodup_iff_count_le_one

end WorkItem

open WorkItem (times times_append times_perm)

section Steps

variable [Hosted W] {setting : Setting W}

/-- A step with an item puts its test nowhere else while the attempt is undecided. -/
theorem StageChange.pending {ctx : AttemptContext} {s s' : Shared W} {stage stage' : Stage}
    (h : StageChange setting ctx s stage stage' s') (sound : stage.Sound setting ctx) (key : TestKey) :
    times key (s'.queue.items ++ if stage'.isDecided then [] else [ctx.item]) ≤
      times key (s.queue.items ++ if stage.isDecided then [] else [ctx.item]) := by
  cases h with
  | @offered next r queue accepted =>
    obtain ⟨-, -, rfl⟩ := WorkQueue.offer_eq_ok_iff.1 accepted
    obtain rfl := sound.2
    have same : times key [ctx.item.nextAttempt setting.retry r.device ctx.pool] = times key [ctx.item] :=
      WorkItem.times_singleton_congr WorkItem.key_nextAttempt
    refine Nat.le_of_eq ?_
    simp only [Stage.isDecided, if_true, Bool.false_eq_true, if_false, times_append, List.append_nil, same]
  | kept =>
    change times key (s.queue.items ++ []) ≤ times key (s.queue.items ++ [ctx.item])
    rw [List.append_nil, times_append]
    exact Nat.le_add_right _ _
  | _ => exact Nat.le_refl _

theorem Worker.Effect.pending {pool : PoolContext} {w w' : Worker W} {s s' : Shared W}
    (h : w.Effect setting pool s w' s') (sound : w.Sound setting pool) (key : TestKey) :
    times key (s'.queue.items ++ w'.undecided?.toList) ≤
      times key (s.queue.items ++ w.undecided?.toList) := by
  cases h with
  | none idle idle' queue =>
    refine Nat.le_of_eq ?_
    rw [queue, undecided?_eq_none idle, undecided?_eq_none idle']
  | @take item idle phase' claimed =>
    have split := WorkQueue.perm_of_claim? claimed
    simp only [undecided?_eq_none idle, toList_undecided? phase', Stage.isDecided, Bool.false_eq_true,
      if_false, Option.toList_none, List.append_nil]
    exact Nat.le_of_eq (times_perm (List.perm_append_comm.trans split.symm))
  | work phase phase' change =>
    simp only [Sound, phase] at sound
    rw [toList_undecided? phase, toList_undecided? phase']
    exact change.pending sound key
  | drop phase spent idle' items =>
    rw [undecided?_eq_none idle', items, Option.toList_none, List.append_nil,
      times_append]
    exact Nat.le_add_right _ _

namespace PoolState

variable {p p' : PoolState W} {c c' : Common W} {m : PoolMove}

/-- **No step brings a test to a second place.** -/
theorem Change.pending (h : Change setting p c m p' c') (sound : p.Sound setting)
    (distinct : Distinct p.pending) : Distinct p'.pending := by
  rcases h.own_or_shifts with rfl | ⟨j, w, w', -, shifts⟩
  · unfold PoolState.pending
    rw [h.goesOn.workers]
    exact distinct.sublist (h.goesOn.queued.append_right _)
  · rw [WorkItem.distinct_iff_times] at distinct ⊢
    intro key
    obtain ⟨others, before, after⟩ := shifts.exists_perm_filterMap Worker.undecided?
    have step : times key (p'.queue.items ++ w'.undecided?.toList) ≤
        times key (p.queue.items ++ w.undecided?.toList) := shifts.effect.pending (sound w shifts.mem) key
    have whole := distinct key
    simp only [PoolState.pending, times_append, times_perm before, times_perm after] at step whole ⊢
    omega

omit [Hosted W] in
theorem distinct_pending_ofPlan (plan : PoolPlan) : Distinct (ofPlan (W := W) plan).pending := by
  have idle : (ofPlan (W := W) plan).workers.filterMap Worker.undecided? = [] := by
    refine List.filterMap_eq_nil_iff.2 fun w hw => ?_
    simp only [Worker.undecided?, phase_of_mem_ofPlan hw]
  rw [pending, idle, List.append_nil]
  exact WorkQueue.distinct_firsts plan.items

omit [Hosted W] in
/-- What a worker offers is taken: an item is in flight, and its test waits nowhere else. -/
theorem exists_offer {w : Worker W} {item next : WorkItem} {r : TestResult} (hw : w ∈ p.workers)
    (phase : w.phase = .busy item (.offering next r)) (sound : p.Sound setting) (tallied : p.Tallied)
    (distinct : Distinct p.pending) : ∃ queue, p.queue.offer next = .ok queue := by
  have own := sound w hw
  simp only [Worker.Sound, phase] at own
  refine ⟨_, WorkQueue.offer_eq_ok_iff.2 ⟨fun none => ?_, fun queued => ?_, rfl⟩⟩
  · rw [tallied, List.countP_eq_zero] at none
    exact none w hw (by simp only [Worker.isBusy, phase])
  · obtain ⟨x, hx, same⟩ := List.mem_map.1 queued
    have undecided : w.undecided? = some item := by simp [Worker.undecided?, phase, Stage.isDecided]
    refine (WorkItem.distinct_append.1 distinct).2.2 x hx item ?_ ?_
    · exact List.mem_filterMap.2 ⟨w, hw, undecided⟩
    · rw [same, own.2, WorkItem.key_nextAttempt]

end PoolState

namespace RunState

variable {world : W} {quota : Nat} {plans : List PoolPlan} {s : RunState W}

/-- In the pools of a run the tests are apart. -/
theorem Reachable.pending {p : PoolState W}
    (reachable : Reachable setting (ofPlans world quota plans) s) (hp : p ∈ s.pools) :
    p.Sound setting ∧ p.Tallied ∧ Distinct p.pending := by
  obtain ⟨i, at_i⟩ := List.getElem?_of_mem hp
  obtain ⟨past, trace⟩ := reachable.trace
  obtain ⟨-, sound, distinct⟩ := trace.induct_ofPlans
    (fun _ p _ => p.Sound setting ∧ Distinct p.pending)
    (fun plan _ => ⟨PoolState.sound_ofPlan setting plan, PoolState.distinct_pending_ofPlan plan⟩)
    (fun _ _ apart => apart)
    (fun _ _ _ _ _ _ apart change => ⟨change.sound apart.1, change.pending apart.1 apart.2⟩) at_i
  exact ⟨sound, (reachable.settled at_i).tallied, distinct⟩

/-- The workers of a run are those of the planned devices. -/
theorem Reachable.crew (reachable : Reachable setting (ofPlans world quota plans) s) :
    (s.pools.flatMap (·.workers)).map (·.device) = plans.flatMap (·.pool.devices) := by
  rw [← reachable.plans_eq, List.flatMap_map, List.map_flatMap]
  refine List.flatMap_congr fun p hp => ?_
  obtain ⟨i, at_i⟩ := List.getElem?_of_mem hp
  exact (reachable.settled at_i).staffed

end RunState

/-- **One attempt at a time.** In every state of every run of an accepted plan, whatever is registered and
whoever moves when, no two workers of all the pools hold an item for devices of the same serial. In each
pool no test is twice among the items that are queued, or in flight and undecided. What a worker is about
to offer is therefore always taken. -/
theorem attempts_exclusive {registry : Registry W} {reporter : Reporter W} {config : Config}
    {id : RunId} {w w' world : W} {quota : Nat} {plan : RunPlan W} {s : RunState W}
    (accepted : RunPlan.ofConfig registry config id w = (.done plan, w'))
    (reachable : RunState.Reachable (plan.setting registry reporter)
      (.ofPlans world quota plan.pools) s) :
    (∀ d, (s.pools.flatMap (·.workers)).countP (fun v => v.isBusy && v.device.id == d) ≤ 1) ∧
      ∀ p ∈ s.pools, Distinct p.pending ∧
        ∀ v ∈ p.workers, ∀ item next r, v.phase = .busy item (.offering next r) →
          ∃ queue, p.queue.offer next = .ok queue := by
  constructor
  · intro d
    have apart := RunPlan.nodup_serials_of_ofConfig accepted
    rw [← reachable.crew, List.map_map] at apart
    refine Nat.le_trans ?_ (List.nodup_iff_count_le_one.1 apart d)
    rw [List.count_eq_countP, List.countP_map]
    refine List.countP_mono_left fun v _ busy => ?_
    exact (Bool.and_eq_true_iff.1 busy).2
  · intro p hp
    obtain ⟨sound, tallied, distinct⟩ := reachable.pending hp
    exact ⟨distinct, fun v hv item next r phase =>
      PoolState.exists_offer hv phase sound tallied distinct⟩

end Steps

namespace Sample

/-- Whether a configuration is accepted with the built-in components, and the moves can then be made and
lead to a state that passes a test. -/
def plays (config : Config) (quota : Nat) (moves : List RunMove) (test : RunState Host → Bool) : Bool :=
  match (RunPlan.ofConfig (Registry.builtin 0) config default (default : Host)).1 with
  | .done plan =>
    ((RunState.ofPlans default quota plan.pools).follow (plan.setting (Registry.builtin 0) .silent)
      moves).any fun run => test run.2
  | _ => false

theorem exists_of_plays {config : Config} {quota : Nat} {moves : List RunMove}
    {test : RunState Host → Bool} (passes : plays config quota moves test = true) :
    ∃ plan w' s,
      RunPlan.ofConfig (Registry.builtin 0) config default (default : Host) = (.done plan, w') ∧
      RunState.Reachable (plan.setting (Registry.builtin 0) .silent)
        (.ofPlans default quota plan.pools) s ∧ test s = true := by
  unfold plays at passes
  rcases planned : RunPlan.ofConfig (Registry.builtin 0) config default (default : Host) with
    ⟨plan | _ | _, w'⟩
  · rw [planned] at passes
    obtain ⟨_, s, trace, passes⟩ := RunState.exists_trace_of_follow _ _ moves _ passes
    exact ⟨plan, w', s, rfl, trace.reachable, passes⟩
  all_goals
    rw [planned] at passes
    cases passes

/-- A test for two devices, and a dry run in which all tests fail. -/
def dryConfig : Config where
  devices := ⟨"builtin.static", none, [("devices", .list [listedDevice "a", listedDevice "b"])]⟩
  suite := .inline [⟨item.test, [], []⟩]
  backends := [⟨"builtin.dry-run", none, [("status", .text "FAIL")]⟩]

/-- The workers begin, and the test fails on `a`. -/
def failingOnce : List RunMove :=
  [.pool 0, .worker 0 0 .proceed, .worker 0 1 .proceed, .worker 0 0 .claim, .worker 0 0 .proceed,
    .worker 0 0 .proceed]

/-- Whether the first worker is about to offer the next attempt. -/
def offersOnA (s : RunState Host) : Bool :=
  s.pools[0]?.any fun p => p.workers[0]?.any fun v =>
    v.device.id.serial == "a" && v.offering.any fun next => next.failures == 1

theorem exists_offer_of_dry : ∃ plan w' s p v item next r,
    RunPlan.ofConfig (Registry.builtin 0) dryConfig default (default : Host) = (.done plan, w') ∧
    RunState.Reachable (plan.setting (Registry.builtin 0) .silent) (.ofPlans default 10 plan.pools) s ∧
    p ∈ s.pools ∧ v ∈ p.workers ∧ v.device.id.serial = "a" ∧
    v.phase = .busy item (.offering next r) := by
  have played : plays dryConfig 10 failingOnce offersOnA = true := by decide +kernel
  obtain ⟨plan, w', s, accepted, reachable, passes⟩ := exists_of_plays played
  obtain ⟨p, at_0, passes⟩ := (Option.any_eq_true _ _).1 passes
  obtain ⟨v, first, passes⟩ := (Option.any_eq_true _ _).1 passes
  obtain ⟨serial, passes⟩ := Bool.and_eq_true_iff.1 passes
  obtain ⟨next, coming, -⟩ := List.any_eq_true.1 passes
  obtain ⟨item, r, phase⟩ := Worker.mem_offering.1 coming
  exact ⟨plan, w', s, p, v, item, next, r, accepted, reachable, List.mem_of_getElem? at_0,
    List.mem_of_getElem? first, eq_of_beq serial, phase⟩

end Sample

open Sample in
/-- The worker of `a` is the only one busy for `a`, and what it is about to offer is taken. -/
theorem exclusive_of_dry : ∃ plan w' s p v item next r queue,
    RunPlan.ofConfig (Registry.builtin 0) dryConfig default (default : Host) = (.done plan, w') ∧
      RunState.Reachable (plan.setting (Registry.builtin 0) .silent) (.ofPlans default 10 plan.pools) s ∧
      p ∈ s.pools ∧ v ∈ p.workers ∧ v.device.id.serial = "a" ∧
      v.phase = .busy item (.offering next r) ∧
      (s.pools.flatMap (·.workers)).countP (fun u => u.isBusy && u.device.id == ⟨"a"⟩) = 1 ∧
      p.queue.offer next = .ok queue := by
  obtain ⟨plan, w', s, p, v, item, next, r, accepted, reachable, hp, hv, serial, phase⟩ :=
    exists_offer_of_dry
  obtain ⟨alone, all⟩ := attempts_exclusive accepted reachable
  obtain ⟨queue, taken⟩ := (all p hp).2 v hv item next r phase
  refine ⟨plan, w', s, p, v, item, next, r, queue, accepted, reachable, hp, hv, serial, phase, ?_, taken⟩
  refine Nat.le_antisymm (alone ⟨"a"⟩) (List.countP_pos_iff.2 ⟨v, List.mem_flatMap.2 ⟨p, hp, hv⟩, ?_⟩)
  simp [Worker.isBusy, phase, ← serial]

end TestFleet
