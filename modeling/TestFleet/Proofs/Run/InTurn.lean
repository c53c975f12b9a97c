import TestFleet.Proofs.Run.Answers
import TestFleet.Proofs.Run.Quota
/-!
# Items in turn

A run without any choice to make: the pools come one after the other, in each of them the items, and
all attempts at an item are made on one device that was chosen for it beforehand (`plansInTurn`). The
retries are taken from one budget, as in any run. Where the attempts are answered as foretold, the
chosen devices may run their items and the budget allows for every retry, this comes to its end, and
records of each pool what the forecast has (`exists_plansInTurn`).
-/
namespace TestFleet

variable {W : Type}

/-- What was done in turn: the attempts that were made, what was collected, and the retries left. -/
structure Tally where
  attempts : List WorkItem
  collector : Collector
  budget : RetryBudget

namespace Tally

/-- Nothing done yet. -/
def ofBudget (budget : RetryBudget) : Tally := ⟨[], .empty, budget⟩

/-- One more attempt, which is final. -/
def settle (t : Tally) (item : WorkItem) (r : TestResult) : Tally :=
  ⟨t.attempts ++ [item], t.collector.push r, t.budget⟩

/-- One more attempt, which is superseded by the next. -/
def supersede (t : Tally) (item : WorkItem) (r : TestResult) (budget : RetryBudget) : Tally :=
  ⟨t.attempts ++ [item], t.collector.pushRetried r, budget⟩

end Tally

section InTurn

variable [Hosted W] (setting : Setting W)

/-- The attempts at an item on one device, until one is final. -/
def attemptInTurn (ctx : DeviceContext) (item : WorkItem) (t : Tally) :
    Action W PipelineError Tally := fun w =>
  match AttemptContext.run ⟨ctx, item⟩ setting w with
  | (.done r, w) =>
    if _again : item.mayRetry setting.retry r.status = true then
      match t.budget.take? with
      | some budget => attemptInTurn ctx item.successor (t.supersede item r budget) w
      | none => (.done (t.settle item r), w)
    else (.done (t.settle item r), w)
  | (.failed e, w) => (.failed e, w)
  | (.panicked m, w) =>
    (.done (t.settle item (Worker.rescue ⟨ctx, item⟩ m (Hosted.now w))), w)
termination_by setting.retry.perTest - item.failures
decreasing_by
  have short := (WorkItem.mayRetry_iff.1 _again).2
  have next : item.successor.failures = item.failures + 1 := rfl
  omega

/-- Items one after the other, each on the device that is chosen for it. -/
def itemsInTurn (ctx : PoolContext) (on : WorkItem → Device) :
    List WorkItem → Tally → Action W PipelineError Tally
  | [], t => .give t
  | item :: rest, t => (attemptInTurn setting ⟨ctx, on item⟩ item t).andThen (itemsInTurn ctx on rest)

/-- Pools one after the other, with what was done in each. -/
def plansInTurn (on : DevicePool → WorkItem → Device) :
    List PoolPlan → RetryBudget → Action W PipelineError (List Tally)
  | [], _ => .give []
  | planned :: rest, budget =>
    (itemsInTurn setting ⟨setting.context, planned.pool⟩ (on planned.pool) planned.items
      (.ofBudget budget)).andThen fun t =>
        (plansInTurn on rest t.budget).andThen fun ts => .give (t :: ts)

end InTurn

/-! ## What is recorded in turn -/

namespace Tally

variable {t t' t'' : Tally} {made made' : List AttemptRecord} {n n' : Nat} {item : WorkItem}
  {r : TestResult} {budget : RetryBudget}

/-- Attempts were made of which something was recorded, with a number of retries at most. -/
structure Grows (t t' : Tally) (made : List AttemptRecord) (retries : Nat) : Prop where
  records : t'.collector.records.Perm (t.collector.records ++ made)
  attempts : t'.attempts.map WorkItem.key = t.attempts.map WorkItem.key ++ made.map (·.key)
  budget : t.budget.remaining ≤ t'.budget.remaining + retries

theorem Grows.refl (t : Tally) : t.Grows t [] 0 where
  records := by rw [List.append_nil]
  attempts := by rw [List.map_nil, List.append_nil]
  budget := Nat.le_refl _

theorem Grows.trans (first : t.Grows t' made n) (second : t'.Grows t'' made' n') :
    t.Grows t'' (made ++ made') (n + n') where
  records := by
    rw [← List.append_assoc]
    exact second.records.trans (first.records.append_right _)
  attempts := by rw [second.attempts, first.attempts, List.map_append, List.append_assoc]
  budget := by
    have := first.budget
    have := second.budget
    omega

theorem grows_settle (own : r.test.key = item.key) (n : Nat) :
    t.Grows (t.settle item r) [r.record true] n where
  records := Collector.records_push
  attempts := by simp [settle, TestResult.record, own]
  budget := Nat.le_add_right _ _

theorem grows_supersede (own : r.test.key = item.key) (taken : t.budget.take? = some budget) :
    t.Grows (t.supersede item r budget) [r.record false] 1 where
  records := .of_eq Collector.records_pushRetried
  attempts := by simp [supersede, TestResult.record, own]
  budget := Nat.le_of_eq (RetryBudget.take?_eq_some taken).2.1.symm

end Tally

theorem WorkItem.Follows.successor {first x : WorkItem} (follows : first.Follows x) :
    first.Follows x.successor := { follows with }

section Runs

variable [Hosted W] {setting : Setting W} {planned : PoolPlan} {f : Forecast}

/-- **The attempts at an item in turn are as foretold.** -/
theorem exists_attemptInTurn (meets : setting.Meets planned f) {first : WorkItem}
    (hfirst : first ∈ planned.items) {device : Device} (inPool : device ∈ planned.pool.devices)
    (fits : first.compatible device.id = true) {item : WorkItem} (follows : first.Follows item)
    {t : Tally} (enough : f.limit - item.failures ≤ t.budget.remaining) (w : W) :
    ∃ t' w', attemptInTurn setting ⟨⟨setting.context, planned.pool⟩, device⟩ item t w = (.done t', w') ∧
      t.Grows t' (f.ofItem item) (f.limit - item.failures) := by
  generalize spare : f.limit - item.failures = n at enough ⊢
  induction n using Nat.strongRecOn generalizing item t w with
  | ind n ih =>
    obtain ⟨o, v, ran, answered⟩ := meets.answers first hfirst item follows device inPool fits w
    rw [attemptInTurn, Forecast.ofItem]
    simp only [ran]
    generalize known : f.answer item.key item.failures = answer at answered
    cases answered with
    | panic =>
      rw [f.outlook_of_panic known]
      exact ⟨_, _, rfl, Tally.grows_settle rfl n⟩
    | @result r _ same =>
      subst same
      have own : r.test.key = item.key :=
        congrArg (fun i : ResultIdentity => i.test.key) (AttemptContext.identity_of_run ran)
      by_cases again : item.mayRetry setting.retry r.status = true
      · obtain ⟨failed, short⟩ := WorkItem.mayRetry_iff.1 again
        rw [meets.limit] at short
        simp only [again, dif_pos]
        cases taken : t.budget.take? with
        | none =>
          have none := RetryBudget.take?_eq_none_iff.1 taken
          omega
        | some budget =>
          have left := (RetryBudget.take?_eq_some taken).2.1
          have next : item.successor.failures = item.failures + 1 := rfl
          obtain ⟨t', w', rest, grows⟩ := ih (n - 1) (by omega)
            follows.successor (t := t.supersede item r budget) v (by omega)
            (show n - 1 ≤ budget.remaining by omega)
          refine ⟨t', w', rest, ?_⟩
          rw [f.outlook_of_retry known failed short]
          have whole := (Tally.grows_supersede own taken).trans grows
          rwa [TestResult.record, own, Nat.add_sub_cancel' (by omega)] at whole
      · simp only [again, Bool.false_eq_true, dif_neg, not_false_eq_true]
        refine ⟨_, _, rfl, ?_⟩
        have final : ¬ (r.status.isFailure = true ∧ item.failures < f.limit) := by
          rwa [← meets.limit, ← WorkItem.mayRetry_iff]
        have whole := Tally.grows_settle (t := t) own n
        rwa [f.outlook_of_final known final, ← own]

/-- Each item of a pool is on a device of the pool that may run it. -/
def PoolPlan.Eligible (planned : PoolPlan) (on : WorkItem → Device) : Prop :=
  ∀ item ∈ planned.items, on item ∈ planned.pool.devices ∧ item.compatible (on item).id = true

/-- The first device of the pool that may run an item. -/
def DevicePool.firstFor (pool : DevicePool) (item : WorkItem) : Device :=
  (pool.devices.find? fun d => item.compatible d.id).getD default

/-- Where each item has a device there is a choice of devices for all of them. -/
theorem PoolPlan.eligible_firstFor
    (placed : ∀ item ∈ planned.items, item.compatibleIn planned.pool = true) :
    planned.Eligible planned.pool.firstFor := by
  intro item hitem
  obtain ⟨id, hid, fits⟩ := List.any_eq_true.1 (placed item hitem)
  obtain ⟨d, hd, rfl⟩ := List.mem_map.1 hid
  unfold DevicePool.firstFor
  cases found : planned.pool.devices.find? fun d => item.compatible d.id with
  | none => exact absurd fits (List.find?_eq_none.1 found d hd)
  | some first =>
    have fits : item.compatible first.id = true := by simpa using List.find?_some found
    exact ⟨List.mem_of_find?_eq_some found, fits⟩

theorem exists_itemsInTurn (meets : setting.Meets planned f) {on : WorkItem → Device}
    (eligible : planned.Eligible on) {items : List WorkItem} (listed : items ⊆ planned.items)
    {t : Tally} (enough : items.length * f.limit ≤ t.budget.remaining) (w : W) :
    ∃ t' w', itemsInTurn setting ⟨setting.context, planned.pool⟩ on items t w = (.done t', w') ∧
      t.Grows t' (items.flatMap f.ofItem) (items.length * f.limit) := by
  induction items generalizing t w with
  | nil =>
    refine ⟨t, w, rfl, ?_⟩
    rw [List.length_nil, Nat.zero_mul]
    exact .refl t
  | cons item rest ih =>
    have planned := listed List.mem_cons_self
    obtain ⟨inPool, fits⟩ := eligible item planned
    rw [List.length_cons, Nat.succ_mul] at enough ⊢
    obtain ⟨u, v, first, grows⟩ := exists_attemptInTurn meets planned inPool fits
      ⟨rfl, rfl, List.Subset.refl _, rfl⟩ (t := t) (by omega) w
    have left := grows.budget
    obtain ⟨t', w', others, grows'⟩ := ih (fun x hx => listed (List.mem_cons_of_mem _ hx)) (t := u)
      (by omega) v
    refine ⟨t', w', ?_, ?_⟩
    · rw [itemsInTurn, Action.andThen_of_done first, others]
    · have whole := grows.trans grows'
      exact { whole with budget := by have := whole.budget; omega }

/-- **Items in turn are recorded as foretold**, in every pool. -/
theorem exists_plansInTurn {plans : List PoolPlan} (meets : ∀ planned ∈ plans, setting.Meets planned f)
    {on : DevicePool → WorkItem → Device}
    (eligible : ∀ planned ∈ plans, planned.Eligible (on planned.pool)) {budget : RetryBudget}
    (enough : PoolPlan.itemCount plans * f.limit ≤ budget.remaining) (w : W) :
    ∃ ts w', plansInTurn setting on plans budget w = (.done ts, w') ∧
      ∀ (i : Nat) (planned : PoolPlan), plans[i]? = some planned → ∃ t, ts[i]? = some t ∧
        t.collector.records.Perm (f.ofPlan planned) ∧
        t.attempts.map WorkItem.key = (f.ofPlan planned).map (·.key) := by
  induction plans generalizing budget w with
  | nil => exact ⟨[], w, rfl, nofun⟩
  | cons planned rest ih =>
    have count : PoolPlan.itemCount (planned :: rest) =
        planned.items.length + PoolPlan.itemCount rest := by
      simp only [PoolPlan.itemCount, List.flatMap_cons, List.length_append]
    rw [count, Nat.add_mul] at enough
    obtain ⟨t, v, first, grows⟩ := exists_itemsInTurn (meets planned List.mem_cons_self)
      (eligible planned List.mem_cons_self) (List.Subset.refl _) (t := .ofBudget budget)
      (Nat.le_trans (Nat.le_add_right _ _) enough) w
    have left : budget.remaining ≤ t.budget.remaining + planned.items.length * f.limit := grows.budget
    have enough' : PoolPlan.itemCount rest * f.limit ≤ t.budget.remaining := by omega
    obtain ⟨ts, w', others, recorded⟩ := ih (fun p hp => meets p (List.mem_cons_of_mem _ hp))
      (fun p hp => eligible p (List.mem_cons_of_mem _ hp)) enough' v
    refine ⟨t :: ts, w', ?_, fun i p here => ?_⟩
    · rw [plansInTurn, Action.andThen_of_done first, Action.andThen_of_done others]
      rfl
    · cases i with
      | zero =>
        obtain rfl := Option.some.inj here
        exact ⟨t, rfl, grows.records, grows.attempts⟩
      | succ i => exact recorded i p here

end Runs

end TestFleet
