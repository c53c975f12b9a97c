import Mathlib.Algebra.Order.BigOperators.Group.List
import Mathlib.Algebra.Order.Ring.Nat
import TestFleet.Proofs.Run.Course
import TestFleet.Proofs.Run.Quota
/-!
# A budget that suffices

Every item that is queued or in a worker's hands may be repeated as often as the quota of its test
allows beyond the failures that it has had (`WorkItem.spare`). When a retry is taken from the budget one
of these is spent. So a budget that allows for all of them at the start of a run allows for those that
are left at any time (`RunState.Trace.spare_le`).
-/
namespace TestFleet

variable {W : Type} {limit : Nat}

/-- How often the item may yet be repeated. -/
def WorkItem.spare (limit : Nat) (item : WorkItem) : Nat := limit - item.failures

/-- How often the item at a stage may yet be repeated. -/
def Stage.spare (limit : Nat) (item : WorkItem) : Stage → Nat
  | .attempting | .deciding _ => item.spare limit
  | .offering next _ => next.spare limit
  | _ => 0

/-- How often the items in the queue may yet be repeated. -/
def WorkQueue.spare (limit : Nat) (q : WorkQueue) : Nat := (q.items.map (WorkItem.spare limit)).sum

/-- How often the item in the worker's hands may yet be repeated. -/
def Worker.spare (limit : Nat) (w : Worker W) : Nat :=
  match w.phase with
  | .busy item stage => stage.spare limit item
  | _ => 0

/-- How often the items of the pool may yet be repeated. -/
def PoolState.spare (limit : Nat) (p : PoolState W) : Nat :=
  p.queue.spare limit + (p.workers.map (Worker.spare limit)).sum

theorem Worker.spare_eq_zero {w : Worker W} (idle : w.isBusy = false) : w.spare limit = 0 := by
  unfold isBusy at idle
  unfold spare
  cases phase : w.phase <;> simp_all

section Steps

variable [Hosted W] {setting : Setting W}

/-- An item that is to be offered again may be repeated once less. -/
theorem StageChange.spare {ctx : AttemptContext} {s s' : Shared W} {stage stage' : Stage}
    (h : StageChange setting ctx s stage stage' s') :
    s'.queue.spare setting.retry.perTest + stage'.spare setting.retry.perTest ctx.item +
        stage'.coming.length ≤
      s.queue.spare setting.retry.perTest + stage.spare setting.retry.perTest ctx.item := by
  cases h with
  | retried retry =>
    obtain ⟨allowed, -, rfl⟩ := WorkItem.retry?_eq_some_iff.1 retry
    have short := (WorkItem.mayRetry_iff.1 allowed).2
    simp only [Stage.spare, Stage.coming, WorkItem.spare, WorkItem.failures_nextAttempt,
      List.length_singleton]
    omega
  | offered accepted =>
    obtain ⟨-, -, rfl⟩ := WorkQueue.offer_eq_ok_iff.1 accepted
    simp [Stage.spare, Stage.coming, WorkQueue.spare]
  | _ => simp [Stage.spare, Stage.coming]

theorem Worker.Effect.spare {pool : PoolContext} {w w' : Worker W} {s s' : Shared W}
    (h : Effect setting pool w s w' s') :
    s'.queue.spare setting.retry.perTest + w'.spare setting.retry.perTest + w'.offering.length ≤
      s.queue.spare setting.retry.perTest + w.spare setting.retry.perTest := by
  cases h with
  | none idle idle' queue =>
    rw [queue, spare_eq_zero idle, spare_eq_zero idle', offering_eq_nil idle']
    exact Nat.le_refl _
  | take idle phase' claimed =>
    have split := ((WorkQueue.perm_of_claim? claimed).map
      (WorkItem.spare setting.retry.perTest)).sum_nat
    rw [List.map_cons, List.sum_cons] at split
    simp only [WorkQueue.spare, Worker.spare, phase', Stage.spare, offering,
      Stage.coming, List.length_nil]
    omega
  | work phase phase' change => simpa only [Worker.spare, offering, phase, phase'] using change.spare
  | drop phase spent idle' items =>
    rw [spare_eq_zero idle', offering_eq_nil idle', WorkQueue.spare, items]
    exact Nat.le_add_right _ _

/-- **What is taken from the budget is no longer to spare.** -/
theorem PoolState.Change.spare {p p' : PoolState W} {c c' : Common W} {m : PoolMove}
    (h : Change setting p c m p' c') :
    p'.spare setting.retry.perTest + c'.budget.used ≤
      p.spare setting.retry.perTest + c.budget.used := by
  rcases h.own_or_shifts with rfl | ⟨j, w, w', -, shifts⟩
  · have fewer : p'.queue.spare setting.retry.perTest ≤ p.queue.spare setting.retry.perTest :=
      (h.goesOn.queued.map _).sum_le_sum fun _ _ => Nat.zero_le _
    rw [h.budget_of_own, PoolState.spare, PoolState.spare, h.goesOn.workers]
    omega
  · have others := sum_map_set shifts.at_j (Worker.spare setting.retry.perTest) (b := w')
    have step := shifts.effect.spare
    have used := shifts.spends.2
    rw [PoolState.spare, PoolState.spare, shifts.workers]
    simp only [shared] at step
    omega

namespace RunState

variable {world : W} {quota : Nat} {plans : List PoolPlan} {history : History W} {s : RunState W}

omit [Hosted W] in
theorem spare_ofPlans_le :
    ((ofPlans world quota plans).pools.map (PoolState.spare limit)).sum ≤
      PoolPlan.itemCount plans * limit := by
  unfold ofPlans PoolPlan.itemCount
  dsimp only
  induction plans with
  | nil => exact Nat.zero_le _
  | cons plan rest ih =>
    have idle : ((PoolState.ofPlan (W := W) plan).workers.map (Worker.spare limit)).sum = 0 := by
      refine List.sum_eq_zero fun n hn => ?_
      obtain ⟨w, hw, rfl⟩ := List.mem_map.1 hn
      exact Worker.spare_eq_zero (PoolState.isBusy_of_mem_ofPlan hw)
    have queued : (PoolState.ofPlan (W := W) plan).queue.spare limit ≤ plan.items.length * limit := by
      have each : ∀ n ∈ (WorkQueue.firsts plan.items).map (WorkItem.spare limit), n ≤ limit := by
        intro n hn
        obtain ⟨item, -, rfl⟩ := List.mem_map.1 hn
        exact Nat.sub_le _ _
      have sum : (PoolState.ofPlan (W := W) plan).queue.spare limit ≤
          ((WorkQueue.firsts plan.items).map (WorkItem.spare limit)).length * limit :=
        List.sum_le_card_nsmul _ limit each
      have kept := Nat.mul_le_mul_right limit (WorkQueue.firsts_sublist plan.items).length_le
      rw [List.length_map] at sum
      exact Nat.le_trans sum kept
    simp only [List.map_cons, List.sum_cons, List.flatMap_cons, List.length_append, Nat.add_mul,
      PoolState.spare, idle, Nat.add_zero] at ih ⊢
    exact Nat.add_le_add queued ih

/-- **A budget that allows for every repetition at first always does.** -/
theorem Trace.spare_le (trace : Trace setting (ofPlans world quota plans) history s)
    (enough : PoolPlan.itemCount plans * setting.retry.perTest ≤ quota) :
    (s.pools.map (PoolState.spare setting.retry.perTest)).sum ≤ s.common.budget.remaining := by
  have within : (s.pools.map (PoolState.spare setting.retry.perTest)).sum + s.common.budget.used ≤
      quota := by
    induction trace with
    | refl =>
      have unused : (ofPlans world quota plans).common.budget.used = 0 := Nat.sub_self quota
      rw [unused]
      exact Nat.le_trans spare_ofPlans_le enough
    | @step history s t move earlier stepped ih =>
      obtain ⟨p, p', c', at_place, change, rfl⟩ := earlier.reachable.step_eq_some stepped
      have spare := change.spare
      have others := sum_map_set at_place (PoolState.spare setting.retry.perTest) (b := p')
      simp only [put]
      omega
  have total := trace.used_eq.1
  have left := s.common.budget.remaining_le_total
  unfold RetryBudget.used at within
  omega

end RunState

end Steps

end TestFleet
