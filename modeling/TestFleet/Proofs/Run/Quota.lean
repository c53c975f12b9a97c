import TestFleet.Proofs.Rule.Calm
import TestFleet.Proofs.Run.Numbering
/-!
# Retries and their quotas

The pools of a run share one budget. A retry is taken from it before the next attempt is offered, so
what was taken is what was offered and what workers are about to offer (`RunState.Trace.used_eq`).
Each offer makes for one attempt more than there are items (`RunState.Trace.attempts_le`). An
attempt that its test's quota would have let be repeated is final only when the budget is used up
(`RunState.Trace.thrifty`), as long as nothing panics but backends: the next attempt is never
refused, for the test of an item in hand is not in the queue.
-/
namespace TestFleet

open RunState (Past History)

variable {W : Type}

/-! ## The budget -/

namespace RetryBudget

variable {b left : RetryBudget}

theorem take?_eq_none_iff : b.take? = none ↔ b.remaining = 0 := by
  unfold take?
  split <;> simp_all

theorem take?_eq_some (taken : b.take? = some left) :
    left.total = b.total ∧ left.remaining + 1 = b.remaining ∧ left.used = b.used + 1 := by
  unfold take? at taken
  split at taken
  · cases taken
  · rename_i more
    cases taken
    have within := b.remaining_le_total
    refine ⟨rfl, Nat.sub_add_cancel (Nat.one_le_iff_ne_zero.2 more), ?_⟩
    simp only [used]
    omega

theorem used_le_total (b : RetryBudget) : b.used ≤ b.total := Nat.sub_le _ _

theorem used_eq_total_iff : b.used = b.total ↔ b.remaining = 0 := by
  have := b.remaining_le_total
  unfold used
  omega

end RetryBudget

/-- How much a function of its elements gives when one element of a list is replaced. -/
theorem length_flatMap_set {α β : Type} {xs : List α} {i : Nat} {a b : α} (at_i : xs[i]? = some a)
    (f : α → List β) :
    ((xs.set i b).flatMap f).length + (f a).length = (xs.flatMap f).length + (f b).length := by
  obtain ⟨others, before, after⟩ := exists_others_of_set at_i (b := b)
  have before := (before.flatMap_right f).length_eq
  have after := (after.flatMap_right f).length_eq
  simp only [List.flatMap_cons, List.length_append] at before after
  omega

section Steps

variable [Hosted W] {setting : Setting W}

/-- A retry is taken from the budget as its offer comes up. -/
theorem StageChange.spends {ctx : AttemptContext} {s s' : Shared W} {stage stage' : Stage}
    (h : StageChange setting ctx s stage stage' s') :
    s'.budget.total = s.budget.total ∧ s'.budget.used = s.budget.used + stage'.coming.length := by
  cases h with
  | retried retry =>
    obtain ⟨-, taken, -⟩ := WorkItem.retry?_eq_some_iff.1 retry
    obtain ⟨total, -, used⟩ := RetryBudget.take?_eq_some taken
    exact ⟨total, used⟩
  | _ => exact ⟨rfl, rfl⟩

namespace Worker

variable {pool : PoolContext} {w w' : Worker W} {s s' : Shared W}

theorem Change.spends (h : Change setting pool w s w' s') :
    s'.budget.total = s.budget.total ∧ s'.budget.used = s.budget.used + w'.offering.length := by
  cases h with
  | work phase change => exact change.spends
  | start => exact ⟨rfl, by rw [offering_eq_nil (excused_start ..).1.isBusy]; rfl⟩
  | abandon => exact ⟨rfl, by rw [offering_eq_nil (excused_abandon ..).1.isBusy]; rfl⟩
  | leave => exact ⟨rfl, by rw [offering_eq_nil (idle_leave ..).1]; rfl⟩
  | _ => exact ⟨rfl, rfl⟩

/-- A step queues no more items, or has no more to attempt, than it offers. -/
theorem Effect.waiting (h : Effect setting pool w s w' s') :
    s'.queue.items.length + w'.attempting.length ≤ s.queue.items.length + w.offering.length := by
  cases h with
  | none idle idle' queue =>
    rw [queue, attempting_eq_nil idle']
    exact Nat.le_add_right _ _
  | take idle phase' claimed =>
    have split := (WorkQueue.perm_of_claim? claimed).length_eq
    have one : w'.attempting.length = 1 := by simp only [attempting, phase', List.length_singleton]
    rw [List.length_cons] at split
    omega
  | work phase phase' change =>
    cases change with
    | offered accepted =>
      obtain ⟨-, -, rfl⟩ := WorkQueue.offer_eq_ok_iff.1 accepted
      simp [attempting, offering, phase, phase', Stage.coming]
    | _ => simp [attempting, phase']
  | drop phase spent idle' items =>
    rw [items, attempting_eq_nil idle']
    exact Nat.le_add_right _ _

end Worker

namespace PoolState

variable {p p' : PoolState W} {c c' : Common W} {m : PoolMove}

/-- The next attempts that are about to be offered. -/
def offering (p : PoolState W) : List WorkItem := p.workers.flatMap Worker.offering

/-- The items that wait for an attempt. -/
def waiting (p : PoolState W) : List WorkItem :=
  p.queue.items ++ p.workers.flatMap Worker.attempting

/-- What the pool does itself takes nothing from the budget. -/
theorem Change.budget_of_own (h : Change setting p c .own p' c') : c'.budget = c.budget := by
  cases h <;> rfl

theorem Shifts.spends {j : Nat} {w w' : Worker W} (shifts : Shifts setting p c j w w' p' c') :
    c'.budget.total = c.budget.total ∧ c'.budget.used = c.budget.used + w'.offering.length := by
  rcases shifts.cause with change | notes
  · exact change.spends
  · rw [notes.budget, notes.gone]
    exact ⟨rfl, rfl⟩

/-- What is taken from the budget is offered or about to be. -/
theorem Change.spends (h : Change setting p c m p' c') :
    c'.budget.total = c.budget.total ∧
      c'.budget.used + p.offering.length =
        c.budget.used + (p.shown Worker.offering m).length + p'.offering.length := by
  rcases h.own_or_shifts with rfl | ⟨j, w, w', moved, shifts⟩
  · rw [h.budget_of_own, offering, offering, h.goesOn.workers]
    exact ⟨rfl, rfl⟩
  · have shown := h.shown Worker.offering_eq_nil moved shifts.at_j
    have others := length_flatMap_set shifts.at_j Worker.offering (b := w')
    obtain ⟨total, used⟩ := shifts.spends
    rw [shown, offering, offering, shifts.workers]
    omega

/-- A budget that is used up stays so. -/
theorem Change.usedUp (h : Change setting p c m p' c') (usedUp : c.budget.remaining = 0) :
    c'.budget.remaining = 0 := by
  rcases h.own_or_shifts with rfl | ⟨j, w, w', -, shifts⟩
  · rw [h.budget_of_own, usedUp]
  · obtain ⟨total, used⟩ := shifts.spends
    have within := c'.budget.used_le_total
    rw [← RetryBudget.used_eq_total_iff] at usedUp ⊢
    omega

/-- An item waits for each attempt, or comes to wait by an offer. -/
theorem Change.waiting (h : Change setting p c m p' c') :
    (p.shown Worker.attempting m).length + p'.waiting.length ≤
      p.waiting.length + (p.shown Worker.offering m).length := by
  rcases h.own_or_shifts with rfl | ⟨j, w, w', moved, shifts⟩
  · have fewer := h.goesOn.queued.length_le
    rw [PoolState.waiting, PoolState.waiting, h.goesOn.workers, List.length_append, List.length_append]
    simp only [PoolState.shown, List.length_nil]
    omega
  · rw [h.shown Worker.offering_eq_nil moved shifts.at_j,
      h.shown Worker.attempting_eq_nil moved shifts.at_j]
    have others := length_flatMap_set shifts.at_j Worker.attempting (b := w')
    have step : p'.queue.items.length + w'.attempting.length ≤
        p.queue.items.length + w.offering.length := shifts.effect.waiting
    rw [PoolState.waiting, PoolState.waiting, shifts.workers, List.length_append, List.length_append]
    omega

/-! ## Offers are accepted -/

omit [Hosted W] in
/-- A worker's offer is accepted: the item in its hands is in flight, and its test is not queued. -/
theorem offer_accepted {w : Worker W} {item next : WorkItem} {r : TestResult} (hw : w ∈ p.workers)
    (phase : w.phase = .busy item (.offering next r)) (sound : p.Sound setting)
    (apart : p.entries.Nodup) (tallied : p.Tallied) : ∃ queue, p.queue.offer next = .ok queue := by
  have own := sound w hw
  simp only [Worker.Sound, phase] at own
  refine ⟨_, WorkQueue.offer_eq_ok_iff.2 ⟨fun none => ?_, fun queued => ?_, rfl⟩⟩
  · rw [tallied, List.countP_eq_zero] at none
    exact none w hw (by simp only [Worker.isBusy, phase])
  · obtain ⟨x, hx, same⟩ := List.mem_map.1 queued
    have held : w.open? = some item := by simp only [Worker.open?, phase, Stage.isOpen, if_true]
    obtain ⟨others, split⟩ : ∃ others, p.workers.Perm (w :: others) := by
      classical
      exact ⟨_, List.perm_cons_erase hw⟩
    refine key_ne_of_elsewhere sound apart split (.inl hx) held ?_
    rw [same, own.2, WorkItem.key_nextAttempt]

end PoolState

/-! ## Failures that are final -/

/-- The result that is final at a stage: it is being reported, or has been and is to be kept. -/
def Stage.final? : Stage → Option TestResult
  | .announcing r _ | .keeping r => some r
  | _ => none

/-- The item in a worker's hands and its result, if that is final. -/
def Worker.final? (w : Worker W) : Option (WorkItem × TestResult) :=
  match w.phase with
  | .busy item stage => stage.final?.map fun r => (item, r)
  | _ => none

/-- Where a final result comes from: it was final before, its test's quota allows no retry or the
budget is used up, its retry was refused, or there was a panic. -/
theorem StageChange.final {ctx : AttemptContext} {s s' : Shared W} {stage stage' : Stage}
    (h : StageChange setting ctx s stage stage' s') {r : TestResult} (final : stage'.final? = some r) :
    stage.final? = some r ∨
      (ctx.item.mayRetry setting.retry r.status = true → s'.budget.remaining = 0) ∨
      (∃ next, stage = .offering next r ∧ ∃ e, s.queue.offer next = .error e) ∨
      (∃ m, (ctx.run setting s.world).1 = .panicked m) ∨
      ∃ r m, (setting.reporter.tested r s.world).1 = .panicked m := by
  cases h with
  | settled ended =>
    obtain rfl := Option.some.inj final
    refine .inr (.inl fun allowed => ?_)
    rw [WorkItem.retry?, if_pos allowed, Option.map_eq_none_iff] at ended
    exact RetryBudget.take?_eq_none_iff.1 ended
  | refused rejected =>
    obtain rfl := Option.some.inj final
    exact .inr (.inr (.inl ⟨_, rfl, _, rejected⟩))
  | rescued run => exact .inr (.inr (.inr (.inl ⟨_, congrArg Prod.fst run⟩)))
  | interrupted told => exact .inr (.inr (.inr (.inr ⟨_, _, congrArg Prod.fst told⟩)))
  | announced => exact .inl final
  | _ => cases final

omit [Hosted W] in
theorem Worker.final?_eq_none {w : Worker W} (idle : w.isBusy = false) : w.final? = none := by
  unfold isBusy at idle
  unfold final?
  cases phase : w.phase <;> simp_all

omit [Hosted W] in
theorem Worker.final?_of_busy {w : Worker W} {item : WorkItem} {stage : Stage}
    (phase : w.phase = .busy item stage) : w.final? = stage.final?.map fun r => (item, r) := by
  simp only [final?, phase]

namespace PoolState

variable {p p' : PoolState W} {c c' : Common W} {m : PoolMove}

/-- A failure that its test's quota would have let be repeated is final only when the budget is used
up. -/
def Thrifty (settings : RetrySettings) (p : PoolState W) (budget : RetryBudget) : Prop :=
  ∀ w ∈ p.workers, ∀ item r, w.final? = some (item, r) → item.mayRetry settings r.status = true →
    budget.remaining = 0

theorem Change.thrifty (h : Change setting p c m p' c') (calm : setting.IsCalm)
    (sound : p.Sound setting) (apart : p.phase = .working → p.entries.Nodup)
    (tallied : p.Tallied) (thrifty : p.Thrifty setting.retry c.budget) :
    p'.Thrifty setting.retry c'.budget := by
  intro v hv item r final allowed
  have before (hv : v ∈ p.workers) : c'.budget.remaining = 0 :=
    h.usedUp (thrifty v hv item r final allowed)
  rcases h.own_or_shifts with rfl | ⟨j, w, w', -, shifts⟩
  · exact before (h.goesOn.workers ▸ hv)
  · rcases shifts.eq_or_mem hv with rfl | other
    · cases shifts.effect with
      | none idle idle' | drop _ _ idle' =>
        rw [Worker.final?_eq_none idle'] at final
        cases final
      | take idle phase' =>
        rw [Worker.final?_of_busy phase'] at final
        cases final
      | @work item' stage stage' phase phase' change =>
        rw [Worker.final?_of_busy phase'] at final
        obtain ⟨r', from_stage, pair⟩ := Option.map_eq_some_iff.1 final
        obtain ⟨rfl, rfl⟩ := Prod.mk.inj pair
        rcases change.final from_stage with
          earlier | ended | ⟨next, rfl, e, rejected⟩ | ⟨m, panicked⟩ | ⟨told, m, panicked⟩
        · refine h.usedUp (thrifty w shifts.mem item' r' ?_ allowed)
          rw [Worker.final?_of_busy phase, earlier]
          rfl
        · exact ended allowed
        · obtain ⟨queue, accepted⟩ :=
            offer_accepted shifts.mem phase sound (apart shifts.phase) tallied
          exact absurd (accepted.symm.trans rejected) nofun
        · exact absurd panicked (AttemptContext.isCalm_run calm rfl _ _)
        · exact absurd panicked (calm.told told _ _)
    · exact before other

end PoolState

/-- Outside its work a pool has no busy worker. -/
theorem PoolState.Change.rest {p p' : PoolState W} {c c' : Common W} {m : PoolMove}
    (h : Change setting p c m p' c')
    (rest : p.phase = .working ∨ ∀ w ∈ p.workers, w.isBusy = false) :
    p'.phase = .working ∨ ∀ w ∈ p'.workers, w.isBusy = false := by
  rcases h.own_or_shifts with rfl | ⟨j, w, w', -, shifts⟩
  · have gone_idle (gone : ∀ w ∈ p.workers, w.isGone = true) : ∀ w ∈ p.workers, w.isBusy = false := by
      intro w hw
      exact Worker.isBusy_of_isGone (gone w hw)
    rw [h.goesOn.workers]
    right
    cases h with
    | fail _ gone | drain _ gone => exact gone_idle gone
    | start phase | refuse phase | abort phase | account phase | conclude phase | close phase =>
      exact rest.resolve_left (by simp [phase])
  · exact .inl shifts.phase'

/-! ## Runs -/

namespace RunState

variable {world : W} {quota i : Nat} {plans : List PoolPlan} {history : History W} {s : RunState W}

/-- The next attempts that are about to be offered in the run. -/
def offering (s : RunState W) : List WorkItem := s.pools.flatMap PoolState.offering

omit [Hosted W] in
theorem offering_eq_nil (idle : ∀ p ∈ s.pools, ∀ w ∈ p.workers, w.isBusy = false) :
    s.offering = [] :=
  List.flatMap_eq_nil_iff.2 fun p hp => List.flatMap_eq_nil_iff.2 fun w hw =>
    Worker.offering_eq_nil (idle p hp w hw)

omit [Hosted W] in
theorem idle_ofPlans : ∀ p ∈ (ofPlans world quota plans).pools, ∀ w ∈ p.workers, w.isBusy = false := by
  intro p hp w hw
  obtain ⟨plan, -, rfl⟩ := List.mem_map.1 hp
  exact PoolState.isBusy_of_mem_ofPlan hw

omit [Hosted W] in
theorem length_waiting_ofPlans :
    ((ofPlans world quota plans).pools.flatMap PoolState.waiting).length ≤
      PoolPlan.itemCount plans := by
  unfold ofPlans PoolPlan.itemCount
  dsimp only
  induction plans with
  | nil => exact Nat.le_refl 0
  | cons plan rest ih =>
    have queued : (PoolState.ofPlan (W := W) plan).waiting.length ≤ plan.items.length := by
      have idle : (PoolState.ofPlan (W := W) plan).workers.flatMap Worker.attempting = [] :=
        List.flatMap_eq_nil_iff.2 fun w hw => Worker.attempting_eq_nil
          (PoolState.isBusy_of_mem_ofPlan hw)
      rw [PoolState.waiting, idle, List.append_nil]
      exact (WorkQueue.firsts_sublist plan.items).length_le
    rw [List.map_cons, List.flatMap_cons, List.flatMap_cons, List.length_append, List.length_append]
    exact Nat.add_le_add queued ih

/-- **What is used of the budget was offered or is about to be.** -/
theorem Trace.used_eq (trace : Trace setting (ofPlans world quota plans) history s) :
    s.common.budget.total = quota ∧
      s.common.budget.used = history.offers.length + s.offering.length := by
  induction trace with
  | refl =>
    rw [offering_eq_nil idle_ofPlans]
    exact ⟨rfl, Nat.sub_self quota⟩
  | @step history s t move earlier stepped ih =>
    obtain ⟨p, p', c', at_place, change, rfl⟩ := earlier.reachable.step_eq_some stepped
    obtain ⟨total, spends⟩ := change.spends
    have others := length_flatMap_set at_place PoolState.offering (b := p')
    refine ⟨total.trans ih.1, ?_⟩
    rw [History.offers, History.shown_append at_place, List.length_append]
    simp only [offering, put, History.offers] at ih ⊢
    omega

/-- **An attempt is made for an item, or for an offer.** -/
theorem Trace.attempts_le (trace : Trace setting (ofPlans world quota plans) history s) :
    history.attempts.length + (s.pools.flatMap PoolState.waiting).length ≤
      PoolPlan.itemCount plans + history.offers.length := by
  induction trace with
  | refl =>
    rw [History.attempts, History.shown, List.flatMap_nil, List.length_nil, Nat.zero_add]
    exact Nat.le_trans length_waiting_ofPlans (Nat.le_add_right _ _)
  | @step history s t move earlier stepped ih =>
    obtain ⟨p, p', c', at_place, change, rfl⟩ := earlier.reachable.step_eq_some stepped
    have waiting := change.waiting
    have others := length_flatMap_set at_place PoolState.waiting (b := p')
    rw [History.offers, History.attempts, History.shown_append at_place,
      History.shown_append at_place, List.length_append, List.length_append]
    simp only [put, History.offers, History.attempts] at ih ⊢
    omega

/-- A failure that its test's quota would have let be repeated is final only when the budget is used
up, if nothing panics but backends. -/
theorem Trace.thrifty (trace : Trace setting (ofPlans world quota plans) history s)
    (calm : setting.IsCalm) : ∀ p ∈ s.pools, p.Thrifty setting.retry s.common.budget := by
  induction trace with
  | refl =>
    intro p hp w hw item r final
    rw [Worker.final?_eq_none (idle_ofPlans p hp w hw)] at final
    cases final
  | @step history s t move earlier stepped ih =>
    obtain ⟨p, p', c', at_place, change, rfl⟩ := earlier.reachable.step_eq_some stepped
    intro q hq
    rcases List.mem_or_eq_of_mem_set hq with other | rfl
    · exact fun w hw item r final allowed => change.usedUp (ih q other w hw item r final allowed)
    · exact change.thrifty calm (earlier.recorded at_place).2.sound (earlier.apart at_place)
        (earlier.reachable.settled at_place).tallied (ih p (List.mem_of_getElem? at_place))

/-- Outside their work the pools of a run have no busy worker. -/
theorem Trace.rest {p : PoolState W} (trace : Trace setting (ofPlans world quota plans) history s)
    (hp : p ∈ s.pools) : p.phase = .working ∨ ∀ w ∈ p.workers, w.isBusy = false := by
  obtain ⟨i, at_i⟩ := List.getElem?_of_mem hp
  have rest := trace.induct_ofPlans
    (fun _ p _ => p.phase = .working ∨ ∀ w ∈ p.workers, w.isBusy = false)
    (fun plan _ => .inr fun w hw => PoolState.isBusy_of_mem_ofPlan hw)
    (fun _ _ rest => rest) (fun _ _ _ _ _ _ rest change => change.rest rest) at_i
  exact rest.2

/-- When every pool is over nothing is about to be offered. -/
theorem Trace.offering_eq_nil (trace : Trace setting (ofPlans world quota plans) history s)
    (ended : s.isOver = true) : s.offering = [] := by
  refine RunState.offering_eq_nil fun p hp => ?_
  refine (trace.rest hp).resolve_left fun phase => ?_
  have ended := List.all_eq_true.1 ended p hp
  simp [PoolState.isOver, phase] at ended

end RunState

/-- **Retries stay within their quotas, and none is given up needlessly.** In every run of any number
of pools, whatever its backends answer and whoever moves when:
* as many next attempts were offered as retries were used, but for those about to be offered, and no
  more than the budget of the run has;
* the attempts at a planned test are numbered from the number of the item without a gap, each once,
  up to the quota of a test at most;
* there are no more attempts than items and retries of the run;
* if nothing panics but backends, and the limit for their answers can be told, a failure that its
  test's quota would have let be repeated is final only when the budget is used up. -/
theorem retries_within_quotas {world : W} {quota : Nat} {plans : List PoolPlan}
    {history : History W} {s : RunState W}
    (trace : RunState.Trace setting (.ofPlans world quota plans) history s) :
    (s.common.budget.used = history.offers.length + s.offering.length ∧
      s.common.budget.used ≤ quota ∧
      (s.isOver = true → s.common.budget.used = history.offers.length)) ∧
    (∀ (i : Nat) (plan : PoolPlan), plans[i]? = some plan →
      ∀ first ∈ WorkQueue.firsts plan.items, ∃ n,
        Past.numbers (history.ofPool i) first.key = List.range' first.failures n ∧
        ∀ k ∈ Past.numbers (history.ofPool i) first.key,
          k ≤ max first.failures setting.retry.perTest) ∧
    history.attempts.length ≤ PoolPlan.itemCount plans + quota ∧
    (setting.IsCalm → ∀ p ∈ s.pools, ∀ w ∈ p.workers, ∀ item r, w.final? = some (item, r) →
      r.status.isFailure = true → item.failures < setting.retry.perTest →
      s.common.budget.used = quota) := by
  obtain ⟨total, used⟩ := trace.used_eq
  have within : s.common.budget.used ≤ quota := total ▸ s.common.budget.used_le_total
  refine ⟨⟨used, within, fun ended => ?_⟩, ?_, ?_, ?_⟩
  · rw [used, trace.offering_eq_nil ended]
    rfl
  · exact fun i plan planned first hfirst => trace.numbers_eq planned hfirst
  · have attempts := trace.attempts_le
    omega
  · intro calm p hp w hw item r final failed allowed
    have usedUp := trace.thrifty calm p hp w hw item r final
      (WorkItem.mayRetry_iff.2 ⟨failed, allowed⟩)
    rw [← total]
    exact RetryBudget.used_eq_total_iff.2 usedUp

end Steps

/-! ## A budget that is used up, and a limit that cannot be told -/

namespace Sample

theorem isCalm_registry : setting.registry.IsCalm := by
  refine Registry.isCalm_of_factories nofun nofun ?_ nofun
  intro factory known ctx e rules built rule hr
  obtain rfl := List.mem_singleton.1 known
  cases built
  obtain rfl := List.mem_singleton.1 hr
  constructor
  · intro ctx w m
    unfold withdrawal
    dsimp only
    split <;> nofun
  · exact fun ctx summary => Action.isCalm_give summary

theorem attempts_built (ctx : AttemptContext) (m : String) :
    setting.registry.rulesOfAttempt ctx ≠ .panicked m := by
  intro panicked
  obtain ⟨factory, known, -⟩ := Registry.exists_of_buildAll_panicked panicked
  cases known

theorem isCalm_setting : setting.IsCalm :=
  ⟨isCalm_registry, attempts_built, nofun, by decide⟩

/-- The test fails on `a` and is offered again; it fails on `b`, which is the end of it. -/
def giving : List RunMove :=
  opening ++ (.worker 0 0 .claim :: .replicate 3 (.worker 0 0 .proceed)) ++
    (.worker 0 1 .claim :: .replicate 2 (.worker 0 1 .proceed))

/-- Whether the worker has a failure that is final though its test's quota would let it be
repeated. -/
def givesUp (w : Worker Host) : Bool :=
  w.final?.any fun (item, r) => r.status.isFailure && decide (item.failures < 3)

/-- The sample with time limits as long as can be. -/
def endless : Setting Host :=
  { setting with
    context := ⟨default,
      { config with
        run := { outputTimeoutSecs := 9223372036854775807, listenerGraceSecs := 9223372036854775807 } },
      "", default⟩ }

end Sample

open Sample in
/-- One retry is all that the run has. It is used for the first failure, and so the second is final. -/
theorem quotas_of_sample : ∃ history s,
    RunState.Trace setting (.ofPlans default 1 [plan]) history s ∧
      (∃ p ∈ s.pools, ∃ w ∈ p.workers, givesUp w = true) ∧ s.common.budget.used = 1 ∧
      history.offers.length + s.offering.length = 1 ∧ history.attempts.length ≤ 2 ∧
      ∃ n, Past.numbers (history.ofPool 0) item.key = List.range' 0 n := by
  obtain ⟨history, s, trace, passes⟩ := RunState.exists_trace_of_follow setting
    (.ofPlans default 1 [plan]) giving (fun run => run.2.pools.any fun p => p.workers.any givesUp)
    (by decide +kernel)
  obtain ⟨p, hp, passes⟩ := List.any_eq_true.1 passes
  obtain ⟨w, hw, givesUp⟩ := List.any_eq_true.1 passes
  obtain ⟨⟨x, r⟩, final, short⟩ := (Option.any_eq_true _ _).1 givesUp
  simp only [Bool.and_eq_true, decide_eq_true_eq] at short
  have all := retries_within_quotas trace
  have used := all.2.2.2 isCalm_setting p hp w hw x r final short.1 short.2
  obtain ⟨n, numbers, -⟩ := all.2.1 0 plan rfl item (by decide)
  exact ⟨history, s, trace, ⟨p, hp, w, hw, givesUp⟩, used, all.1.1 ▸ used, all.2.2.1, n, numbers⟩

open Sample in
/-- With limits that add up to more than can be told an attempt panics before its backend runs, and
its failure is final though no retry was used. -/
theorem endless_gives_up : ∃ history s,
    RunState.Trace endless (.ofPlans default 1 [plan]) history s ∧ endless.registry.IsCalm ∧
      (∀ ctx m, endless.registry.rulesOfAttempt ctx ≠ .panicked m) ∧
      (∀ result, (endless.reporter.tested result).IsCalm) ∧
      ∃ p ∈ s.pools, ∃ w ∈ p.workers, ∃ x r, w.final? = some (x, r) ∧ r.status.isFailure = true ∧
        x.failures < endless.retry.perTest ∧ s.common.budget.used ≠ 1 := by
  obtain ⟨history, s, trace, passes⟩ := RunState.exists_trace_of_follow endless
    (.ofPlans default 1 [plan])
    ([.pool 0, .worker 0 0 .proceed, .worker 0 0 .claim, .worker 0 0 .proceed,
      .worker 0 0 .proceed])
    (fun run => run.2.common.budget.used == 0 && run.2.pools.any fun p => p.workers.any givesUp)
    (by decide +kernel)
  obtain ⟨unused, passes⟩ := Bool.and_eq_true_iff.1 passes
  obtain ⟨p, hp, passes⟩ := List.any_eq_true.1 passes
  obtain ⟨w, hw, givesUp⟩ := List.any_eq_true.1 passes
  obtain ⟨⟨x, r⟩, final, short⟩ := (Option.any_eq_true _ _).1 givesUp
  simp only [Bool.and_eq_true, decide_eq_true_eq] at short
  refine ⟨history, s, trace, isCalm_registry, attempts_built, nofun, p, hp, w, hw, x, r, final,
    short.1, short.2, ?_⟩
  rw [eq_of_beq unused]
  decide

end TestFleet
