import TestFleet.Proofs.Rule.Preserving
import TestFleet.Proofs.Run.Booking
import TestFleet.Proofs.Run.Cause
/-!
# The books of a run balance

Every attempt that a worker has finished has left a result, kept or superseded, and apart from these
there are only the results of the items that no device could take (`PoolState.Counted`). So it is as long
as no worker has an error, and if the rules of pools and devices change nothing that is what a pool
reports as it ends (`PoolState.Reports`). Every retry that was used has left one superseded attempt,
which is kept, is still in a worker's hands, or was taken back for an item that no device was left for
(`RunState.Trace.used_eq_superseded`).
-/
namespace TestFleet

open RunState (History)

variable {W : Type}

/-- The rules that the registry builds for the run, its pools and its devices change nothing of what is
carried out through them. -/
structure Registry.ReturnsUnchanged (registry : Registry W) : Prop where
  run : ∀ ctx rules, registry.rulesOfRun ctx = .done rules → ∀ rule ∈ rules, rule.ReturnsUnchanged ctx
  pool : ∀ ctx rules, registry.rulesOfPool ctx = .done rules → ∀ rule ∈ rules, rule.ReturnsUnchanged ctx
  device : ∀ ctx rules, registry.rulesOfDevice ctx = .done rules →
    ∀ rule ∈ rules, rule.ReturnsUnchanged ctx

/-- How many results are collected, final and superseded. -/
def Collector.size (c : Collector) : Nat := c.results.length + c.retried.length

/-! ## Workers -/

/-- How many results were kept of the attempt at a stage. -/
def Stage.kept : Stage → Nat
  | .releasing none => 1
  | _ => 0

/-- The superseded attempt at a stage that has yet to be kept. -/
def Stage.superseding : Stage → List TestResult
  | .offering _ r | .stashing r => [r]
  | _ => []

namespace Worker

/-- The attempts of the worker that have left a result, for as long as the pool has not taken note of
them. -/
def finished (w : Worker W) : Nat :=
  match w.phase with
  | .busy _ stage => w.executed + stage.kept
  | .stopped (.ok summary) => summary.executed
  | .gone => 0
  | _ => w.executed

/-- The superseded attempt in the worker's hands. -/
def superseding (w : Worker W) : List TestResult :=
  match w.phase with
  | .busy _ stage => stage.superseding
  | _ => []

/-- A worker has finished nothing before it begins, nor ever if it must not wait, and what it leaves is
of its device. -/
structure Honest (settings : RunSettings) (w : Worker W) : Prop where
  fresh : w.phase = .starting → w.executed = 0
  unserved : settings.pollTimeout.isBeyondClock = true → w.executed = 0 ∧ w.isBusy = false
  own : ∀ summary, w.phase = .stopped (.ok summary) → summary.device = w.device.id

theorem superseding_eq_nil {w : Worker W} (idle : w.isBusy = false) : w.superseding = [] := by
  unfold isBusy at idle
  unfold superseding
  cases phase : w.phase <;> simp_all

/-- A worker that has begun has finished nothing. -/
theorem finished_start {w : Worker W} (setting : Setting W) (ctx : DeviceContext) (world : W)
    (fresh : w.executed = 0) :
    (w.start setting ctx world).1.finished = 0 := by
  unfold start
  split
  · exact fresh
  · rfl
  · dsimp only
    split
    · split <;> exact fresh
    · exact fresh
    · rfl

theorem executed_start (setting : Setting W) (ctx : DeviceContext) (w : Worker W) (world : W) :
    (w.start setting ctx world).1.executed = w.executed := by
  unfold start
  split
  · rfl
  · rfl
  · dsimp only
    split
    · split <;> rfl
    · rfl
    · rfl

theorem executed_abandon (ctx : DeviceContext) (e : PipelineError) (w : Worker W) (world : W) :
    (w.abandon ctx e world).1.executed = w.executed := by
  unfold abandon
  split <;> rfl

theorem executed_leave (ctx : DeviceContext) (w : Worker W) (world : W) :
    (w.leave ctx world).1.executed = w.executed := by
  unfold leave
  split <;> rfl

end Worker

section Steps

variable [Hosted W] {setting : Setting W}

/-- As an item goes from one stage to another a result is kept, or none. -/
theorem StageChange.counts {ctx : AttemptContext} {s s' : Shared W} {stage stage' : Stage}
    (h : StageChange setting ctx s stage stage' s') :
    stage'.kept + s.collector.size = stage.kept + s'.collector.size := by
  cases h with
  | stashed | kept =>
    simp only [Stage.kept, Collector.size, Collector.pushRetried, Collector.push, List.length_append,
      List.length_singleton]
    omega
  | _ => rfl

/-- A retry that is taken from the budget supersedes an attempt, which is kept once the next one was
offered. -/
theorem StageChange.superseding {ctx : AttemptContext} {s s' : Shared W} {stage stage' : Stage}
    (h : StageChange setting ctx s stage stage' s')
    (accepted : ∀ next r, stage = .offering next r → ∃ queue, s.queue.offer next = .ok queue) :
    stage'.coming.length + stage.superseding.length + s.collector.retried.length =
      stage'.superseding.length + s'.collector.retried.length := by
  cases h with
  | @refused next r e rejected =>
    obtain ⟨queue, taken⟩ := accepted next r rfl
    exact absurd (taken.symm.trans rejected) nofun
  | stashed =>
    simp only [Stage.coming, Stage.superseding, Collector.pushRetried, List.length_append,
      List.length_nil, List.length_singleton]
    omega
  | _ => simp [Stage.coming, Stage.superseding, Collector.push]

namespace Worker

variable {pool : PoolContext} {w w' : Worker W} {s s' : Shared W}

omit [Hosted W] in
theorem Excused.own (excused : w.Excused) (summary : DeviceSummary)
    (phase : w.phase = .stopped (.ok summary)) : summary.device = w.device.id := by
  unfold Excused at excused
  simp only [phase] at excused
  exact excused.1

omit [Hosted W] in
theorem Excused.begun (excused : w.Excused) : w.phase ≠ .starting := by
  intro phase
  simp [Excused, phase] at excused

/-- A worker that must not wait takes nothing up. -/
theorem Change.unserved (h : Change setting pool w s w' s')
    (beyond : pool.run.config.run.pollTimeout.isBeyondClock = true)
    (unserved : w.executed = 0 ∧ w.isBusy = false) : w'.executed = 0 ∧ w'.isBusy = false := by
  obtain ⟨none, idle⟩ := unserved
  cases h with
  | start => exact ⟨(executed_start ..).trans none, (excused_start ..).1.isBusy⟩
  | abandon => exact ⟨(executed_abandon ..).trans none, (excused_abandon ..).1.isBusy⟩
  | leave => exact ⟨(executed_leave ..).trans none, (idle_leave ..).1⟩
  | claim _ _ within => exact absurd (beyond.symm.trans within) nofun
  | work phase | release phase | violate phase | crash phase => simp [isBusy, phase] at idle
  | expire | heed | quit | cancel => exact ⟨none, rfl⟩

theorem Change.honest (h : Change setting pool w s w' s') (honest : w.Honest pool.run.config.run) :
    w'.Honest pool.run.config.run := by
  have unserved := fun beyond => h.unserved beyond (honest.unserved beyond)
  cases h with
  | start =>
    have excused := (excused_start setting ⟨pool, w.device⟩ w s.world).1
    exact ⟨fun phase => absurd phase excused.begun, unserved, excused.own⟩
  | @abandon e =>
    have excused := (excused_abandon ⟨pool, w.device⟩ e w s.world).1
    exact ⟨fun phase => absurd phase excused.begun, unserved, excused.own⟩
  | expire | crash =>
    refine ⟨nofun, unserved, fun summary phase => ?_⟩
    cases phase
    rfl
  | leave =>
    refine ⟨fun phase => ?_, unserved, fun found phase => ?_⟩
    · unfold Worker.leave at phase
      split at phase <;> cases phase
    · unfold Worker.leave at phase ⊢
      split at phase
      · rename_i summary world left
        cases phase
        exact Pipeline.identity_of_unwind left
      · cases phase
      · cases phase
        rfl
  | _ => exact ⟨nofun, unserved, nofun⟩

omit [Hosted W] in
/-- A worker whose rules change nothing leaves the summary that it has. -/
theorem leave_eq (calm : setting.registry.IsCalm) (unchanged : setting.registry.ReturnsUnchanged)
    (phase : w.phase = .leaving) (manned : w.Manned setting pool) (world : W) :
    (w.leave ⟨pool, w.device⟩ world).1 = w.at_ (.stopped (.ok w.summary)) := by
  have built := manned.built (by simp only [isUnderway, phase])
  obtain ⟨v, left⟩ := Pipeline.exists_unwind_of_unchanged (p := w.pipeline)
    (calm.device _ _ built) (unchanged.device _ _ built) w.summary w.depth world
  unfold leave
  rw [left]
  rfl

omit [Hosted W] in
/-- A worker that gives its scope up stops with its error. -/
theorem abandon_eq (calm : setting.registry.IsCalm) {e : PipelineError}
    (phase : w.phase = .abandoning e) (manned : w.Manned setting pool) (world : W) :
    (w.abandon ⟨pool, w.device⟩ e world).1 = w.at_ (.stopped (.error e)) := by
  have built := manned.built (by simp only [isUnderway, phase])
  have quiet : (w.pipeline.release ⟨pool, w.device⟩ w.summary w.depth : Action W Empty Unit).IsCalm :=
    Pipeline.isCalm_release (calm.device _ _ built)
  unfold abandon
  split
  · rename_i panicked
    exact absurd (congrArg Prod.fst panicked) (quiet world _)
  · rfl

/-- **What a worker has finished it has left a result of**, as long as it has no error. -/
theorem Change.finishes (h : Change setting pool w s w' s') (calm : setting.registry.IsCalm)
    (unchanged : setting.registry.ReturnsUnchanged) (manned : w.Manned setting pool)
    (honest : w.Honest pool.run.config.run) (steady : w.isFailing = false) :
    w'.finished + s.collector.size = w.finished + s'.collector.size := by
  cases h with
  | start phase =>
    have fresh := honest.fresh phase
    rw [finished_start setting _ _ fresh]
    simp only [Worker.finished, phase, fresh]
  | expire phase beyond => simp [Worker.finished, phase, crashed, at_, (honest.unserved beyond).1]
  | claim phase | heed phase | quit phase => simp [Worker.finished, phase, Stage.kept, at_]
  | work phase change =>
    have counts := change.counts
    simp only [Worker.finished, phase, at_]
    omega
  | release phase => simp [Worker.finished, phase, Stage.kept, at_]
  | violate phase | cancel phase => simp [Worker.isFailing, phase] at steady
  | crash phase => exact absurd phase (manned.sane _ _)
  | abandon phase =>
    rw [abandon_eq calm phase manned]
    simp [Worker.finished, phase, at_]
  | leave phase =>
    rw [leave_eq calm unchanged phase manned]
    simp [Worker.finished, phase, at_, summary]

/-- What a step takes from the budget supersedes an attempt. -/
theorem Effect.superseding (h : Effect setting pool w s w' s')
    (accepted : ∀ item next r, w.phase = .busy item (.offering next r) →
      ∃ queue, s.queue.offer next = .ok queue) :
    w'.offering.length + w.superseding.length + s.collector.retried.length =
      w'.superseding.length + s'.collector.retried.length := by
  cases h with
  | none idle idle' _ collector =>
    rw [offering_eq_nil idle', superseding_eq_nil idle, superseding_eq_nil idle', collector]
    simp
  | take idle phase' _ collector =>
    rw [superseding_eq_nil idle, collector]
    simp [Worker.superseding, offering, phase', Stage.coming, Stage.superseding]
  | @work item stage stage' phase phase' change =>
    have kept := change.superseding fun next r at_stage => accepted item next r (at_stage ▸ phase)
    simpa only [Worker.superseding, offering, phase, phase'] using kept
  | @drop item stage phase spent idle' _ collector =>
    have none : w.superseding = [] := by
      simp only [Worker.superseding, phase]
      cases stage <;> simp_all [Stage.isSpent, Stage.superseding]
    rw [offering_eq_nil idle', none, superseding_eq_nil idle', collector]
    simp

end Worker

/-! ## Pools -/

/-- Whether a device comes before another by its serial, or is the same. -/
theorem DeviceId.before_total (a b : DeviceId) : (!b.before a || !a.before b) = true := by
  simp only [before, Ascending.textBefore, Bool.or_eq_true, Bool.not_eq_true', decide_eq_false_iff_not,
    String.not_lt]
  exact String.le_total _ _

theorem DeviceId.before_trans (a b c : DeviceId) (first : (!b.before a) = true)
    (second : (!c.before b) = true) : (!c.before a) = true := by
  simp only [before, Ascending.textBefore, Bool.not_eq_true', decide_eq_false_iff_not, String.not_lt]
    at first second ⊢
  exact String.le_trans first second

/-- The result of a pool accounts for what its devices did: it has one summary for each of them, in
ascending order of their serials, and as many results, final and superseded, as there were attempts
finished and items that no device could take. -/
structure PoolResult.Balances (r : PoolResult) (pool : DevicePool) : Prop where
  staffed : (r.devices.map (·.device)).Perm pool.deviceIds
  ascending : r.devices.Pairwise fun a b => b.device.before a.device = false
  balanced : (r.devices.map (·.executed)).sum + r.unreachable = r.results.length + r.retried.length

namespace PoolState

variable {p p' : PoolState W} {c c' : Common W} {m : PoolMove}

/-- The attempts finished in the pool that have left a result. -/
def finished (p : PoolState W) : Nat :=
  (p.devices.map (·.executed)).sum + (p.workers.map Worker.finished).sum

/-- The workers that the pool has not taken note of. -/
def present (p : PoolState W) : List (Worker W) := p.workers.filter fun w => !w.isGone

/-- The pool has taken note of each device once, or its worker is there, and the results collected are
those of the attempts finished and of so many items that no device could take. -/
structure Counted (p : PoolState W) (unreachable : Nat) : Prop where
  noted : (p.devices.map (·.device) ++ p.present.map fun w => w.device.id).Perm p.plan.pool.deviceIds
  counted : p.finished + unreachable = p.collector.size

/-- What is superseded in the pool: kept, or in the hands of workers. -/
def superseded (p : PoolState W) : List TestResult :=
  p.collector.retried ++ p.workers.flatMap Worker.superseding

/-- The result is of what the pool has done. -/
structure Reports (p : PoolState W) (r : PoolResult) : Prop where
  balances : r.Balances p.plan.pool
  results : r.results = p.collector.results
  retried : r.retried = p.collector.retried

/-- What the pool has done is counted, in the way of the phase that it is in. -/
def Balanced (p : PoolState W) : Prop :=
  match p.phase with
  | .planned => p.Counted 0 ∧ p.collector = .empty
  | .refused _ | .working => p.Counted 0
  | .accounting _ unreachable => p.Counted unreachable ∧ ∀ w ∈ p.workers, w.isGone = true
  | .closing r | .finished (.ok r) => p.Reports r
  | .lost _ => p.collector = .empty
  | .aborting .. | .finished (.error _) => True

/-- A worker of the pool is about to call the run off. -/
def IsFailing (p : PoolState W) : Prop := p.phase = .working ∧ ∃ w ∈ p.workers, w.isFailing = true

/-- The workers of the pool are honest, and what it has done is counted unless the run is called off or
about to be. -/
structure Books (setting : Setting W) (p : PoolState W) (off : Bool) : Prop where
  honest : ∀ w ∈ p.workers, w.Honest setting.context.config.run
  balanced : off = true ∨ p.IsFailing ∨ p.Balanced

/-- The superseded attempt that the pool takes back when it goes on: the one kept last at the test of an
item that waited for a retry. -/
def regaining (p : PoolState W) : List TestResult :=
  match p.phase with
  | .accounting (item :: _) _ =>
    if item.failures = 0 then [] else ((p.collector.reclaim? item.key).map Prod.fst).toList
  | _ => []

/-- The superseded attempt that the pool takes back with a move. -/
def regained (p : PoolState W) : PoolMove → List TestResult
  | .own => p.regaining
  | .worker _ | .join _ => []

omit [Hosted W] in
/-- An item that is left either gets back an attempt that was superseded, or is one more that no device
could take. -/
theorem size_of_settleLeft {item : WorkItem} {now : Time.Moment} {r : TestResult}
    {collector : Collector} {isUnreachable : Bool}
    (settled : p.settleLeft item now = (r, collector, isUnreachable)) :
    (collector.push r).size = p.collector.size + isUnreachable.toNat := by
  simp only [Collector.size, Collector.push, List.length_append, List.length_singleton]
  rcases settleLeft_eq settled with ⟨rfl, -, reclaimed⟩ | ⟨rfl, -, -, rfl⟩
  · have split := (Collector.perm_of_reclaim? reclaimed).length_eq
    rw [(Collector.reclaim?_eq_some reclaimed).2.2.1, split, List.length_cons, Bool.toNat_false]
    omega
  · rw [Bool.toNat_true]
    omega

/-- An item that is left is settled, and counted where no device could take it. -/
theorem account_told (told : setting.reporter.IsCalm) (item : WorkItem) (left : List WorkItem)
    (unreachable : Nat) (p : PoolState W) (world : W) :
    ∃ r collector isUnreachable, p.settleLeft item (Hosted.now world) = (r, collector, isUnreachable) ∧
      (p.account setting item left unreachable world).1 =
        { p with collector := collector.push r }.at_
          (.accounting left (unreachable + isUnreachable.toNat)) := by
  unfold account
  obtain ⟨r, collector, isUnreachable⟩ := p.settleLeft item (Hosted.now world)
  refine ⟨r, collector, isUnreachable, rfl, ?_⟩
  dsimp only
  split
  · rename_i panicked
    exact absurd (congrArg Prod.fst panicked) (told.tested r world _)
  · cases isUnreachable <;> rfl

omit [Hosted W] in
/-- A pool whose rules change nothing ends with the result that it has. -/
theorem close_of_unchanged {r : PoolResult} (calm : setting.registry.IsCalm)
    (unchanged : setting.registry.ReturnsUnchanged) (phase : p.phase = .closing r)
    (manned : p.Manned setting) (world : W) :
    (p.close ⟨setting.context, p.plan.pool⟩ r world).1 = p.at_ (.finished (.ok r)) := by
  have built := manned.built (by simp only [isUnderway, phase])
  obtain ⟨v, left⟩ := Pipeline.exists_unwind_of_unchanged (p := p.pipeline)
    (calm.pool _ _ built) (unchanged.pool _ _ built) r p.depth world
  unfold close
  rw [left]
  rfl

omit [Hosted W] in
/-- A pool that gives its scope up ends with its error. -/
theorem abort_of_calm {e : RunError} {r : PoolResult} (calm : setting.registry.IsCalm)
    (phase : p.phase = .aborting e r) (manned : p.Manned setting) (world : W) :
    (p.abort ⟨setting.context, p.plan.pool⟩ e r world).1 = p.at_ (.finished (.error e)) := by
  have built := manned.built (by simp only [isUnderway, phase])
  have quiet : (p.pipeline.release ⟨setting.context, p.plan.pool⟩ r p.depth :
      Action W Empty Unit).IsCalm := Pipeline.isCalm_release (calm.pool _ _ built)
  unfold abort
  split
  · rename_i panicked
    exact absurd (congrArg Prod.fst panicked) (quiet world _)
  · rfl

omit [Hosted W] in
/-- As one worker changes the others stay present. -/
theorem exists_present {j : Nat} {w w' : Worker W} (at_j : p.workers[j]? = some w)
    (workers : p'.workers = p.workers.set j w') :
    ∃ others, p.present.Perm ((if w.isGone then [] else [w]) ++ others) ∧
      p'.present.Perm ((if w'.isGone then [] else [w']) ++ others) := by
  obtain ⟨others, before, after⟩ := exists_others_of_set at_j (b := w')
  refine ⟨others.filter fun w => !w.isGone, (before.filter _).trans (.of_eq ?_), ?_⟩
  · cases gone : w.isGone <;> simp [gone]
  · rw [present, workers]
    refine (after.filter _).trans (.of_eq ?_)
    cases gone : w'.isGone <;> simp [gone]

omit [Hosted W] in
/-- Taking note of a worker's end counts what it has left. -/
theorem Counted.join {j : Nat} {w : Worker W} {summary : DeviceSummary} {unreachable : Nat}
    (counted : p.Counted unreachable) (at_j : p.workers[j]? = some w) {settings : RunSettings}
    (honest : w.Honest settings) (stopped : w.phase = .stopped (.ok summary)) (plan : p'.plan = p.plan)
    (collector : p'.collector = p.collector) (workers : p'.workers = p.workers.set j (w.at_ .gone))
    (devices : p'.devices = p.devices ++ [summary]) : p'.Counted unreachable where
  noted := by
    obtain ⟨others, before, after⟩ := exists_present at_j workers
    have there : w.isGone = false := by simp only [Worker.isGone, stopped]
    have gone : (w.at_ .gone).isGone = true := rfl
    simp only [there, Bool.false_eq_true, if_false, List.singleton_append] at before
    simp only [gone, if_true, List.nil_append] at after
    have noted : (w.device.id :: p'.present.map fun w => w.device.id).Perm
        (p.present.map fun w => w.device.id) :=
      ((after.map fun w : Worker W => w.device.id).cons _).trans
        (before.map fun w : Worker W => w.device.id).symm
    rw [plan, devices, List.map_append, List.append_assoc, List.map_singleton,
      honest.own summary stopped]
    exact (noted.append_left _).trans counted.noted
  counted := by
    have sum := sum_map_set at_j Worker.finished (b := w.at_ .gone)
    have before : w.finished = summary.executed := by simp only [Worker.finished, stopped]
    have after : (w.at_ .gone).finished = 0 := rfl
    have counted := counted.counted
    simp only [finished, devices, workers, collector, List.map_append, List.sum_append,
      List.map_singleton, List.sum_singleton] at counted ⊢
    omega

omit [Hosted W] in
/-- What a worker finishes is counted as its results are collected. -/
theorem Counted.set {j : Nat} {w w' : Worker W} {unreachable : Nat} (counted : p.Counted unreachable)
    (at_j : p.workers[j]? = some w) (plan : p'.plan = p.plan) (devices : p'.devices = p.devices)
    (workers : p'.workers = p.workers.set j w') (device : w'.device = w.device)
    (there : w.isGone = false) (there' : w'.isGone = false)
    (finished : w'.finished + p.collector.size = w.finished + p'.collector.size) :
    p'.Counted unreachable where
  noted := by
    obtain ⟨others, before, after⟩ := exists_present at_j workers
    rw [there] at before
    rw [there'] at after
    have noted : (p'.present.map fun w => w.device.id).Perm (p.present.map fun w => w.device.id) := by
      refine (after.map fun w => w.device.id).trans (.trans (.of_eq ?_) (before.map _).symm)
      simp [device]
    rw [plan, devices]
    exact (noted.append_left _).trans counted.noted
  counted := by
    have sum := sum_map_set at_j Worker.finished (b := w')
    have counted := counted.counted
    simp only [PoolState.finished, devices, workers] at counted ⊢
    omega

omit [Hosted W] in
/-- What was counted stays so as the pool goes on by itself. -/
theorem Counted.own {unreachable unreachable' : Nat} (counted : p.Counted unreachable)
    (plan : p'.plan = p.plan) (devices : p'.devices = p.devices) (workers : p'.workers = p.workers)
    (collector : p'.collector.size + unreachable = p.collector.size + unreachable') :
    p'.Counted unreachable' where
  noted := by
    rw [plan, devices, present, workers]
    exact counted.noted
  counted := by
    have counted := counted.counted
    rw [finished, devices, workers]
    rw [finished] at counted
    omega

omit [Hosted W] in
/-- A pool that has taken note of all its devices reports what it has done. -/
theorem Counted.reports {unreachable : Nat} (counted : p.Counted unreachable)
    (gone : ∀ w ∈ p.workers, w.isGone = true) : p.Reports (p.resultSoFar unreachable) where
  results := rfl
  retried := rfl
  balances := by
    have noted := counted.noted
    have present : p.present = [] := List.filter_eq_nil_iff.2 fun w hw => by simp [gone w hw]
    rw [present, List.map_nil, List.append_nil] at noted
    have sorted : p.sortedDevices.Perm p.devices := List.mergeSort_perm _ _
    refine ⟨(sorted.map _).trans noted, ?_, ?_⟩
    · have trans (a b c : DeviceSummary) : (!b.device.before a.device) = true →
          (!c.device.before b.device) = true → (!c.device.before a.device) = true :=
        DeviceId.before_trans a.device b.device c.device
      have total (a b : DeviceSummary) :
          (!b.device.before a.device || !a.device.before b.device) = true :=
        DeviceId.before_total a.device b.device
      refine (List.pairwise_mergeSort trans total _).imp fun {a b} sorted => ?_
      simpa using sorted
    · have none : (p.workers.map Worker.finished).sum = 0 := by
        refine List.sum_eq_zero_iff_forall_eq_nat.2 fun n hn => ?_
        obtain ⟨w, hw, rfl⟩ := List.mem_map.1 hn
        simp only [Worker.finished, Worker.isGone_iff.1 (gone w hw)]
      have same := (sorted.map fun d => d.executed).sum_nat
      have counted := counted.counted
      simp only [finished, Collector.size, resultSoFar] at counted ⊢
      omega

/-- A worker that moves has not gone, and does not go by itself. -/
theorem present_of_change {pool : PoolContext} {w w' : Worker W} {s s' : Shared W}
    (h : Worker.Change setting pool w s w' s') : w.isGone = false ∧ w'.isGone = false := by
  have present {w : Worker W} (there : w.phase ≠ .gone) : w.isGone = false :=
    Bool.eq_false_iff.2 fun gone => there (Worker.isGone_iff.1 gone)
  constructor
  · refine present fun gone => ?_
    cases h with
    | start phase | expire phase | claim phase | heed phase | quit phase | work phase | release phase
    | violate phase | crash phase | cancel phase | abandon phase | leave phase => simp [phase] at gone
  · refine present fun gone => ?_
    have excused {w : Worker W} (h : w.Excused) : w.phase ≠ .gone := by
      intro phase
      simp [Worker.Excused, phase] at h
    cases h with
    | start => exact excused (Worker.excused_start ..).1 gone
    | abandon => exact excused (Worker.excused_abandon ..).1 gone
    | leave =>
      unfold Worker.leave at gone
      split at gone <;> cases gone
    | _ => cases gone

/-- **What a pool has done is counted**, as long as the run is not called off and no worker is about to
call it off. -/
theorem Change.balanced (h : Change setting p c m p' c') (calm : setting.registry.IsCalm)
    (told : setting.reporter.IsCalm) (unchanged : setting.registry.ReturnsUnchanged)
    (manned : p.Manned setting) (honest : ∀ w ∈ p.workers, w.Honest setting.context.config.run)
    (steady : p.phase = .working → ∀ w ∈ p.workers, w.isFailing = false)
    (called : c'.cancelled = false) (balanced : p.Balanced) : p'.Balanced := by
  cases h with
  | start phase =>
    simp only [Balanced, phase] at balanced
    obtain ⟨rules, depth, next, eq, allowed⟩ :=
      start_eq setting ⟨setting.context, p.plan.pool⟩ p c.world
    rw [eq]
    cases next with
    | working | refused e => exact balanced.1.own rfl rfl rfl rfl
    | finished o =>
      cases o with
      | ok r => exact allowed.elim
      | error e => trivial
    | lost m => exact balanced.2
    | _ => exact allowed.elim
  | refuse | fail => trivial
  | drain phase gone =>
    simp only [Balanced, phase] at balanced
    exact ⟨balanced.own rfl rfl rfl rfl, gone⟩
  | abort phase =>
    rw [abort_of_calm calm phase manned]
    trivial
  | @account item left unreachable phase =>
    simp only [Balanced, phase] at balanced
    obtain ⟨r, collector, isUnreachable, settled, eq⟩ :=
      account_told told item left unreachable p c.world
    have size := size_of_settleLeft settled
    rw [eq]
    refine ⟨balanced.1.own rfl rfl rfl ?_, balanced.2⟩
    simp only [at_]
    omega
  | conclude phase =>
    simp only [Balanced, phase] at balanced
    have reports := balanced.1.reports balanced.2
    exact ⟨reports.balances, reports.results, reports.retried⟩
  | @close r phase =>
    simp only [Balanced, phase] at balanced
    rw [close_of_unchanged calm unchanged phase manned]
    exact ⟨balanced.balances, balanced.results, balanced.retried⟩
  | @worker j w w' s' phase at_j change =>
    simp only [Balanced, phase] at balanced
    have hw := List.mem_of_getElem? at_j
    have finishes := change.finishes calm unchanged (manned.crew w hw) (honest w hw)
      (steady phase w hw)
    obtain ⟨there, there'⟩ := present_of_change change
    have counted : (p.withWorker j w' s').Counted 0 :=
      balanced.set at_j rfl rfl rfl change.device there there' finishes
    simpa only [Balanced, withWorker, phase] using counted
  | @join j w summary phase at_j stopped =>
    simp only [Balanced, phase] at balanced ⊢
    exact balanced.join at_j (honest w (List.mem_of_getElem? at_j)) stopped rfl rfl rfl rfl
  | joinFailed => cases called

/-- When a worker is about to call the run off, one is so after a step, or the run is called off. -/
theorem Change.isFailing (h : Change setting p c m p' c') (failing : p.IsFailing) :
    c'.cancelled = true ∨ p'.IsFailing := by
  obtain ⟨phase, failing⟩ := failing
  refine (h.failing failing).symm.imp_right fun failing' => ⟨?_, failing'⟩
  rcases h.own_or_shifts with rfl | ⟨j, w, w', -, shifts⟩
  · obtain ⟨w, hw, failing⟩ := failing
    cases h with
    | fail _ gone | drain _ gone =>
      simp [Worker.isFailing, Worker.isGone_iff.1 (gone w hw)] at failing
    | start other | refuse other | abort other | account other | conclude other | close other =>
      simp [phase] at other
  · exact shifts.phase'

theorem Change.honest (h : Change setting p c m p' c')
    (honest : ∀ w ∈ p.workers, w.Honest setting.context.config.run) :
    ∀ w ∈ p'.workers, w.Honest setting.context.config.run := by
  intro v hv
  rcases h.own_or_shifts with rfl | ⟨j, w, w', -, shifts⟩
  · exact honest v (h.goesOn.workers ▸ hv)
  · rcases shifts.eq_or_mem hv with rfl | other
    · rcases shifts.cause with change | ⟨-, rfl, -⟩
      · exact change.honest (honest w shifts.mem)
      · exact ⟨nofun, fun beyond => ⟨((honest w shifts.mem).unserved beyond).1, rfl⟩, nofun⟩
    · exact honest v other

/-- The books are kept. -/
theorem Change.books (h : Change setting p c m p' c') (calm : setting.registry.IsCalm)
    (told : setting.reporter.IsCalm) (unchanged : setting.registry.ReturnsUnchanged)
    (manned : p.Manned setting) (books : p.Books setting c.cancelled) : p'.Books setting c'.cancelled where
  honest := h.honest books.honest
  balanced := by
    rcases books.balanced with off | failing | balanced
    · exact .inl (h.cancelled off)
    · exact (h.isFailing failing).imp_right .inl
    · by_cases failing : p.IsFailing
      · exact (h.isFailing failing).imp_right .inl
      · cases called : c'.cancelled with
        | true => exact .inl rfl
        | false =>
          have steady : p.phase = .working → ∀ w ∈ p.workers, w.isFailing = false :=
            fun phase w hw => Bool.eq_false_iff.2 fun fails => failing ⟨phase, w, hw, fails⟩
          exact .inr (.inr (h.balanced calm told unchanged manned books.honest steady called balanced))

omit [Hosted W] in
theorem books_ofPlan (setting : Setting W) (plan : PoolPlan) :
    (ofPlan (W := W) plan).Books setting false where
  honest := by
    intro w hw
    obtain ⟨device, -, rfl⟩ := List.mem_map.1 hw
    exact ⟨fun _ => rfl, fun _ => ⟨rfl, rfl⟩, nofun⟩
  balanced := by
    refine .inr (.inr ⟨⟨?_, ?_⟩, rfl⟩)
    · have all : (ofPlan (W := W) plan).present = (ofPlan plan).workers :=
        List.filter_eq_self.2 fun w hw => by simp [Worker.isGone, phase_of_mem_ofPlan hw]
      rw [all]
      simp [ofPlan, DevicePool.deviceIds, Worker.ofDevice, Function.comp_def]
    · have none : ((ofPlan (W := W) plan).workers.map Worker.finished).sum = 0 := by
        refine List.sum_eq_zero_iff_forall_eq_nat.2 fun n hn => ?_
        obtain ⟨w, hw, rfl⟩ := List.mem_map.1 hn
        obtain ⟨device, -, rfl⟩ := List.mem_map.1 hw
        rfl
      rw [finished, none]
      rfl

omit [Hosted W] in
/-- What the pool takes back for an item is no longer among what is superseded. -/
theorem regaining_of_settleLeft {item : WorkItem} {left : List WorkItem} {unreachable : Nat}
    {now : Time.Moment} {r : TestResult} {collector : Collector} {isUnreachable : Bool}
    (phase : p.phase = .accounting (item :: left) unreachable)
    (settled : p.settleLeft item now = (r, collector, isUnreachable)) :
    p.collector.retried.length = collector.retried.length + p.regaining.length ∧
      p.regaining ⊆ [r] := by
  simp only [regaining, phase]
  rcases settleLeft_eq settled with ⟨-, waited, reclaimed⟩ | ⟨-, nothing, -, rfl⟩
  · have split := (Collector.perm_of_reclaim? reclaimed).length_eq
    rw [if_neg waited, reclaimed]
    exact ⟨split, List.Subset.refl _⟩
  · rcases nothing with fresh | none
    · rw [if_pos fresh]
      exact ⟨rfl, List.nil_subset _⟩
    · rw [none]
      split <;> exact ⟨rfl, List.nil_subset _⟩

/-- What the pool itself does takes back what it may, and keeps it as a final result if the reporter does
not panic. -/
theorem Change.regaining (h : Change setting p c .own p' c') :
    p.collector.retried.length = p'.collector.retried.length + p.regaining.length ∧
      p.collector.results ⊆ p'.collector.results ∧
      (setting.reporter.IsCalm → p.regaining ⊆ p'.collector.results) := by
  have quiet {p' : PoolState W} (collector : p'.collector = p.collector)
      (none : p.regaining = []) :
      p.collector.retried.length = p'.collector.retried.length + p.regaining.length ∧
        p.collector.results ⊆ p'.collector.results ∧
        (setting.reporter.IsCalm → p.regaining ⊆ p'.collector.results) := by
    rw [collector, none]
    exact ⟨rfl, List.Subset.refl _, fun _ => List.nil_subset _⟩
  cases h with
  | start phase =>
    obtain ⟨_, _, _, eq, -⟩ := start_eq setting ⟨setting.context, p.plan.pool⟩ p c.world
    exact quiet (by rw [eq]) (by simp only [PoolState.regaining, phase])
  | refuse phase | fail phase | drain phase | conclude phase =>
    exact quiet rfl (by simp only [PoolState.regaining, phase])
  | @abort e r phase =>
    refine quiet ?_ (by simp only [PoolState.regaining, phase])
    rcases abort_eq ⟨setting.context, p.plan.pool⟩ e r p c.world with eq | ⟨m, eq⟩ <;> rw [eq] <;> rfl
  | @close r phase =>
    refine quiet ?_ (by simp only [PoolState.regaining, phase])
    rcases close_eq ⟨setting.context, p.plan.pool⟩ r p c.world with ⟨o, eq⟩ | ⟨m, eq⟩ <;> rw [eq] <;> rfl
  | @account item left unreachable phase =>
    obtain ⟨r, collector, _, settled, ⟨m, loud, eq⟩ | ⟨count, eq⟩⟩ :=
      account_eq setting item left unreachable p c.world
    · obtain ⟨fewer, -⟩ := regaining_of_settleLeft phase settled
      rw [eq]
      refine ⟨fewer, ?_, fun told => absurd loud (told.tested r c.world m)⟩
      rw [at_, (key_of_settleLeft settled).2]
      exact List.Subset.refl _
    · obtain ⟨fewer, own⟩ := regaining_of_settleLeft phase settled
      rw [eq]
      simp only [at_, Collector.push, (key_of_settleLeft settled).2]
      exact ⟨fewer, List.subset_append_left _ _, fun _ => List.Subset.trans own (List.subset_append_right _ _)⟩

/-- What a pool takes from the budget supersedes an attempt, and what it takes back it has kept. -/
theorem Change.superseded (h : Change setting p c m p' c') (sound : p.Sound setting)
    (apart : p.phase = .working → p.entries.Nodup) (tallied : p.Tallied) :
    c'.budget.used + p.superseded.length =
      c.budget.used + p'.superseded.length + (p.regained m).length := by
  simp only [PoolState.superseded, List.length_append]
  rcases h.own_or_shifts with rfl | ⟨j, w, w', moved, shifts⟩
  · have regaining := h.regaining.1
    rw [h.budget_of_own, h.goesOn.workers]
    simp only [regained]
    omega
  · have others := length_flatMap_set shifts.at_j Worker.superseding (b := w')
    have kept := shifts.effect.superseding fun item next r phase =>
      offer_accepted shifts.mem phase sound (apart shifts.phase) tallied
    obtain ⟨-, used⟩ := shifts.spends
    have none : p.regained m = [] := by cases m <;> simp_all [regained, PoolMove.worker?]
    rw [none, shifts.workers, used]
    simp only [shared, List.length_nil] at kept ⊢
    omega

/-- A final result stays. -/
theorem Change.results (h : Change setting p c m p' c') :
    p.collector.results ⊆ p'.collector.results := by
  rcases h.own_or_shifts with rfl | ⟨j, w, w', -, shifts⟩
  · exact h.regaining.2.1
  · exact shifts.effect.collected.1

end PoolState

/-! ## Runs -/

namespace RunState

variable {world : W} {quota : Nat} {plans : List PoolPlan} {history : History W} {s : RunState W}

/-- The superseded attempts that were taken back in a run, each as the final result of an item that
waited for a retry and that no device was left for. -/
def History.regained (h : History W) : List TestResult :=
  h.flatMap fun (s, move) => (s.pools[move.place]?.toList).flatMap fun p => p.regained move.mover

omit [Hosted W] in
theorem History.regained_append {p : PoolState W} {move : RunMove}
    (at_place : s.pools[move.place]? = some p) :
    History.regained (history ++ [(s, move)]) = history.regained ++ p.regained move.mover := by
  simp [History.regained, at_place]

omit [Hosted W] in
theorem superseded_ofPlans : (ofPlans world quota plans).pools.flatMap PoolState.superseded = [] := by
  refine List.flatMap_eq_nil_iff.2 fun p hp => ?_
  have idle := idle_ofPlans p hp
  obtain ⟨plan, -, rfl⟩ := List.mem_map.1 hp
  exact List.flatMap_eq_nil_iff.2 fun w hw => Worker.superseding_eq_nil (idle w hw)

/-- **Every retry that was used has left one superseded attempt**: it is kept, in a worker's hands, or was
taken back. -/
theorem Trace.used_eq_superseded (trace : Trace setting (ofPlans world quota plans) history s) :
    s.common.budget.used = (s.pools.flatMap PoolState.superseded).length + history.regained.length := by
  induction trace with
  | refl =>
    rw [superseded_ofPlans]
    exact Nat.sub_self quota
  | @step history s t move earlier stepped ih =>
    obtain ⟨p, p', c', at_place, change, rfl⟩ := earlier.reachable.step_eq_some stepped
    have one := change.superseded (earlier.recorded at_place).2.sound (earlier.apart at_place)
      (earlier.reachable.settled at_place).tallied
    have others := length_flatMap_set at_place PoolState.superseded (b := p')
    rw [History.regained_append at_place, List.length_append]
    simp only [put] at ih ⊢
    omega

/-- What was taken back is a final result. -/
theorem Trace.regained_subset (trace : Trace setting (ofPlans world quota plans) history s)
    (told : setting.reporter.IsCalm) :
    ∀ r ∈ history.regained, ∃ p ∈ s.pools, r ∈ p.collector.results := by
  induction trace with
  | refl => nofun
  | @step history s t move earlier stepped ih =>
    obtain ⟨p, p', c', at_place, change, rfl⟩ := earlier.reachable.step_eq_some stepped
    have here : p' ∈ s.pools.set move.place p' :=
      List.mem_set (List.getElem?_eq_some_iff.1 at_place).1 p'
    intro r hr
    rw [History.regained_append at_place] at hr
    rcases List.mem_append.1 hr with before | now
    · obtain ⟨q, hq, kept⟩ := ih r before
      obtain ⟨others, split, after⟩ := exists_others_of_set at_place (b := p')
      rcases List.mem_cons.1 (split.mem_iff.1 hq) with rfl | other
      · exact ⟨p', here, change.results kept⟩
      · exact ⟨q, after.mem_iff.2 (List.mem_cons_of_mem _ other), kept⟩
    · refine ⟨p', here, ?_⟩
      generalize move.mover = mover at change now
      cases mover with
      | own => exact change.regaining.2.2 told now
      | worker j | join j => cases now

/-- The books of every pool are kept. -/
theorem Reachable.books (calm : setting.registry.IsCalm) (told : setting.reporter.IsCalm)
    (unchanged : setting.registry.ReturnsUnchanged)
    (reachable : Reachable setting (ofPlans world quota plans) s) :
    ∀ p ∈ s.pools, p.Books setting s.common.cancelled := by
  induction reachable with
  | refl =>
    intro p hp
    obtain ⟨plan, -, rfl⟩ := List.mem_map.1 hp
    exact PoolState.books_ofPlan setting plan
  | @step s t move earlier stepped ih =>
    obtain ⟨p, p', c', at_place, change, rfl⟩ := earlier.step_eq_some stepped
    have hp := List.mem_of_getElem? at_place
    intro q hq
    rcases List.mem_or_eq_of_mem_set hq with other | rfl
    · have books := ih q other
      exact ⟨books.honest, books.balanced.imp_left change.cancelled⟩
    · exact change.books calm told unchanged ((earlier.caused calm told).manned p hp) (ih p hp)

/-- A run without a failure was not called off. -/
theorem Reachable.not_cancelled (calm : setting.registry.IsCalm) (told : setting.reporter.IsCalm)
    (reachable : Reachable setting (ofPlans world quota plans) s) (ended : s.isOver = true)
    (fine : RunPlan.failure? s.outcomes = none) : s.common.cancelled = false := by
  refine Bool.eq_false_iff.2 fun off => ?_
  obtain ⟨q, hq, cause⟩ := (reachable.caused calm told).cause off
  obtain ⟨e, failed, -⟩ := cause.exists_error (List.all_eq_true.1 ended q hq)
  have fails := reachable.isSome_failure?_iff.2 ⟨q, hq, e, failed⟩
  rw [fine] at fails
  cases fails

/-- When a run is over without a failure each pool has reported what it has done, unless it was lost
before it did anything. -/
theorem Reachable.reports (calm : setting.registry.IsCalm) (told : setting.reporter.IsCalm)
    (unchanged : setting.registry.ReturnsUnchanged)
    (reachable : Reachable setting (ofPlans world quota plans) s) (ended : s.isOver = true)
    (fine : RunPlan.failure? s.outcomes = none) {p : PoolState W} (hp : p ∈ s.pools) :
    (∃ r, p.result? = some r ∧ p.Reports r) ∨ p.result? = none ∧ p.collector = .empty := by
  have atEnd := List.all_eq_true.1 ended p hp
  have balanced : p.Balanced := by
    rcases (reachable.books calm told unchanged p hp).balanced with off | ⟨phase, -⟩ | balanced
    · rw [reachable.not_cancelled calm told ended fine] at off
      cases off
    · simp [PoolState.isOver, phase] at atEnd
    · exact balanced
  cases phase : p.phase with
  | finished o =>
    cases o with
    | ok r =>
      simp only [PoolState.Balanced, phase] at balanced
      exact .inl ⟨r, PoolState.result?_eq_some_iff.2 phase, balanced⟩
    | error e =>
      have fails := reachable.isSome_failure?_iff.2 ⟨p, hp, e, phase⟩
      rw [fine] at fails
      cases fails
  | lost m =>
    simp only [PoolState.Balanced, phase] at balanced
    have none : p.result? = none := by simp [PoolState.result?, PoolState.outcome?, phase]
    exact .inr ⟨none, balanced⟩
  | _ => simp [PoolState.isOver, phase] at atEnd

/-- When a run is over without a failure, what is superseded is what its pools report. -/
theorem Trace.superseded_eq (trace : Trace setting (ofPlans world quota plans) history s)
    (calm : setting.registry.IsCalm) (told : setting.reporter.IsCalm)
    (unchanged : setting.registry.ReturnsUnchanged) (ended : s.isOver = true)
    (fine : RunPlan.failure? s.outcomes = none) :
    s.pools.flatMap PoolState.superseded =
      (s.pools.filterMap PoolState.result?).flatMap (·.retried) := by
  rw [List.filterMap_eq_flatMap_toList, List.flatMap_assoc]
  refine List.flatMap_congr fun p hp => ?_
  have idle : p.workers.flatMap Worker.superseding = [] := by
    refine List.flatMap_eq_nil_iff.2 fun w hw => Worker.superseding_eq_nil ?_
    refine (trace.rest hp).resolve_left (fun phase => ?_) w hw
    have atEnd := List.all_eq_true.1 ended p hp
    simp [PoolState.isOver, phase] at atEnd
  rw [PoolState.superseded, idle, List.append_nil]
  rcases trace.reachable.reports calm told unchanged ended fine hp with
    ⟨r, came, reports⟩ | ⟨none, empty⟩
  · simp [came, reports.retried]
  · simp [none, empty, Collector.empty]

end RunState

/-- **The books of a run balance.** If neither the rules nor the reporter panic and the rules of the run,
of pools and of devices change nothing, then in every execution that is done, whatever its backends
answer, whatever the rules of attempts annotate and whatever course its pools take:
* the result of every pool has one summary for each of its devices, in ascending order of their serials,
  and the attempts that these finished and the items that no device could take are together as many as
  the results, final and superseded;
* as many retries were used as there are superseded attempts in all pools and attempts that were taken
  back for items that no device was left for, which are among the final results. -/
theorem books_balance {plan : RunPlan W} {course : RunState W → RunState W} {registry : Registry W}
    {reporter : Reporter W} (calm : registry.IsCalm) (told : reporter.IsCalm)
    (unchanged : registry.ReturnsUnchanged)
    (courses : RunPlan.IsCourse (plan.setting registry reporter) plan.pools course) {w w' : W}
    {r : RunResult} (done : plan.executeBy course registry reporter w = (.done r, w')) :
    (∀ found ∈ r.pools, ∃ planned ∈ plan.pools, planned.pool.id = found.pool ∧
      found.Balances planned.pool) ∧
    ∃ rules depth s, plan.Gathers course registry reporter w rules depth s r ∧
      (∃ v history, RunState.Trace (plan.setting registry reporter)
        (.ofPlans v (plan.setting registry reporter).retry.total plan.pools) history s) ∧
      ∀ v history, RunState.Trace (plan.setting registry reporter)
          (.ofPlans v (plan.setting registry reporter).retry.total plan.pools) history s →
        r.retriesUsed = (r.pools.map (·.retried.length)).sum + history.regained.length ∧
        ∀ x ∈ history.regained, x ∈ r.results := by
  obtain ⟨rules, depth, s, gathered, v, gathers, fine, unwound⟩ := RunPlan.exists_gathers done
  have same : r = gathered := by
    obtain ⟨u, left⟩ := Pipeline.exists_unwind_of_unchanged (p := ⟨.run, rules⟩)
      (calm.run _ _ gathers.built) (unchanged.run _ _ gathers.built) gathered depth s.common.world
    exact Outcome.done.inj (congrArg Prod.fst (unwound.symm.trans left))
  subst same
  obtain ⟨_, begun, -, -, course⟩ := gathers.entered
  obtain ⟨reachable, ended⟩ := courses begun
  rw [← course] at reachable ended
  have perm : r.pools.Perm (s.pools.filterMap PoolState.result?) :=
    gathers.result ▸ reachable.results_perm
  refine ⟨fun found hf => ?_, rules, depth, s, gathers, ?_, fun v history trace => ?_⟩
  · obtain ⟨p, hp, came⟩ := List.mem_filterMap.1 (perm.mem_iff.1 hf)
    have own : found.pool = p.id := by
      have ending := (reachable.ending hp).ending
      simpa only [PoolState.result?_eq_some_iff.1 came] using ending
    refine ⟨p.plan, ?_, own.symm, ?_⟩
    · rw [← reachable.plans_eq]
      exact List.mem_map_of_mem hp
    · rcases reachable.reports calm told unchanged ended fine hp with ⟨_, again, reports⟩ | ⟨none, -⟩
      · obtain rfl := Option.some.inj (came.symm.trans again)
        exact reports.balances
      · rw [came] at none
        cases none
  · obtain ⟨history, trace⟩ := reachable.trace
    exact ⟨begun, history, trace⟩
  · have used : r.retriesUsed = s.common.budget.used := by
      rw [gathers.result]
      rfl
    constructor
    · rw [used, trace.used_eq_superseded,
        trace.superseded_eq calm told unchanged ended fine, ← List.length_flatMap]
      rw [(perm.flatMap_right _).length_eq]
    · intro x hx
      obtain ⟨p, hp, kept⟩ := trace.regained_subset told x hx
      rcases reachable.reports calm told unchanged ended fine hp with
        ⟨found, came, reports⟩ | ⟨-, empty⟩
      · refine List.mem_flatMap.2 ⟨found, ?_, reports.results ▸ kept⟩
        exact perm.mem_iff.2 (List.mem_filterMap.2 ⟨p, hp, came⟩)
      · rw [empty] at kept
        cases kept

end Steps

/-! ## A retry that no device is left for -/

namespace Sample

/-- One test that fails wherever it runs, and a pool of three devices of which one is withdrawn. -/
def stranding : RunPlan Host := ⟨⟨default, config, "", default⟩, [backend], [plan]⟩

theorem returnsUnchanged_registry : setting.registry.ReturnsUnchanged := by
  constructor
  case device =>
    intro ctx rules built rule hr
    obtain ⟨factory, known, e, part, made, hr⟩ := Registry.exists_of_mem_buildAll built hr
    obtain rfl := List.mem_singleton.1 known
    cases made
    obtain rfl := List.mem_singleton.1 hr
    intro given w found w' done
    cases done
    rfl
  all_goals
    intro ctx rules built rule hr
    obtain ⟨factory, known, -⟩ := Registry.exists_of_mem_buildAll built hr
    cases known

/-- How many retries a run used, and how many superseded attempts its pools have reported. -/
def spent (s : RunState Host) : Nat × Nat :=
  (s.common.budget.used, ((s.outcomes.filterMap Except.toOption).map (·.retried.length)).sum)

end Sample

open Sample in
/-- The test fails on two devices, and the second attempt is taken back as no device is left. Of the two
retries one has left a superseded attempt and one an attempt that was taken back. -/
theorem balance_of_stranding : ∃ r w',
    stranding.execute setting.registry .silent default = (.done r, w') ∧
      (∀ found ∈ r.pools, found.Balances plan.pool) ∧ r.retriesUsed = 2 ∧
      (r.pools.map (·.retried.length)).sum = 1 ∧
      ∃ v history s, RunState.Trace (stranding.setting setting.registry .silent)
        (.ofPlans v (stranding.setting setting.registry .silent).retry.total stranding.pools) history s ∧
        history.regained.length = 1 ∧ ∀ x ∈ history.regained, x ∈ r.results := by
  obtain ⟨r, done⟩ := exists_of_isDone
    (x := stranding.execute setting.registry .silent default) (by decide +kernel)
  obtain ⟨balances, rules, depth, s, gathers, ⟨v, history, trace⟩, books⟩ :=
    books_balance isCalm_registry isCalm_silent returnsUnchanged_registry
      (RunPlan.isCourse_play _ stranding.pools) done
  obtain ⟨used, among⟩ := books v history trace
  have spent_eq : Sample.spent s = (2, 1) := by
    rw [(gathers_of_unruled rfl gathers).2.2]
    decide +kernel
  obtain ⟨two, one⟩ := Prod.mk.inj spent_eq
  have retried : (r.pools.map (·.retried.length)).sum = 1 := by
    rw [gathers.result]
    exact ((RunPlan.results_perm s.outcomes).map _).sum_nat.trans one
  have retries : r.retriesUsed = 2 := by
    rw [gathers.result]
    exact two
  refine ⟨r, _, done, fun found hf => ?_, retries, retried, v, history, s, trace, by omega, among⟩
  obtain ⟨planned, hp, -, balanced⟩ := balances found hf
  obtain rfl := List.mem_singleton.1 hp
  exact balanced

end TestFleet
