import TestFleet.Proofs.Run.Account
/-!
# When workers stop

A worker stops when nothing is in flight and nothing queued is for its device. That alone can change:
another worker may take an item, and offer its next attempt. But the next attempt is open to no
device that the item was closed to, so once there is nothing for a device among all that the pool
has outstanding there never is again (`PoolState.Change.spent`). Hence the items that are left when
every worker has stopped are for none of the devices that took work (`PoolState.Settled`).
-/
namespace TestFleet

variable {W : Type}

/-- None of the items is for a device. -/
def WorkItem.NoneFor (d : DeviceId) (items : List WorkItem) : Prop :=
  ∀ x ∈ items, x.compatible d = false

/-- The next attempt that is about to be offered. -/
def Stage.coming : Stage → List WorkItem
  | .offering next _ => [next]
  | _ => []

namespace Worker

/-- The items in a worker's hands: the one that it runs, and the next attempt at it. -/
def holding (w : Worker W) : List WorkItem :=
  match w.phase with
  | .busy item stage => item :: stage.coming
  | _ => []

/-- Whether the worker has stopped without an error. -/
def hasEnded (w : Worker W) : Bool :=
  match w.phase with
  | .stopped (.ok _) | .gone => true
  | _ => false

/-- Whether the worker takes no more work and has no error. -/
def hasLeft (w : Worker W) : Bool :=
  match w.phase with
  | .leaving | .stopped (.ok _) | .gone => true
  | _ => false

/-- What the worker leaves to its pool. -/
def summary? (w : Worker W) : Option DeviceSummary :=
  match w.phase with
  | .stopped (.ok summary) => some summary
  | _ => none

theorem summary?_eq_some {w : Worker W} {summary : DeviceSummary}
    (left : w.summary? = some summary) : w.phase = .stopped (.ok summary) := by
  unfold summary? at left
  split at left
  · rename_i phase
    rw [phase, Option.some.inj left]
  · cases left

/-- Whether the worker takes no work, by its own account or by that of the summary it leaves. -/
def IsRetired (w : Worker W) : Prop :=
  w.retired.isSome = true ∨
    ∃ summary, w.summary? = some summary ∧ summary.device = w.device.id ∧
      summary.retired.isSome = true

theorem Excused.isRetired {w : Worker W} (h : w.Excused) (left : w.hasLeft = true) :
    w.IsRetired := by
  unfold Excused at h
  unfold hasLeft at left
  unfold IsRetired summary?
  cases phase : w.phase with
  | leaving => simp_all
  | stopped outcome => cases outcome <;> simp_all
  | _ => simp_all

end Worker

open WorkItem (NoneFor Inherited)

/-! ## What is for a device -/

section Steps

variable [Hosted W] {setting : Setting W} {d : DeviceId} {Q : WorkItem → Prop}

/-- A step with an item brings nothing but what inherits from what there was. -/
theorem StageChange.inherits {ctx : AttemptContext} {s s' : Shared W} {stage stage' : Stage}
    (h : StageChange setting ctx s stage stage' s') (inherited : Inherited setting.retry ctx.pool Q)
    (before : ∀ x ∈ s.queue.items ++ ctx.item :: stage.coming, Q x) :
    ∀ x ∈ s'.queue.items ++ ctx.item :: stage'.coming, Q x := by
  cases h with
  | retried retry =>
    obtain ⟨allowed, -, rfl⟩ := WorkItem.retry?_eq_some_iff.1 retry
    have own : Q ctx.item := before _ (by simp)
    intro x hx
    simp only [Stage.coming, List.mem_append, List.mem_cons, List.not_mem_nil, or_false] at hx
    rcases hx with queued | rfl | rfl
    · exact before x (List.mem_append_left _ queued)
    · exact own
    · exact inherited ctx.item _ (WorkItem.mayRetry_iff.1 allowed).2 own
  | offered accepted =>
    obtain ⟨-, -, rfl⟩ := WorkQueue.offer_eq_ok_iff.1 accepted
    intro x hx
    refine before x ?_
    simp only [Stage.coming, List.mem_append, List.mem_cons, List.not_mem_nil, or_false] at hx ⊢
    tauto
  | refused rejected =>
    intro x hx
    refine before x ?_
    simp only [Stage.coming, List.mem_append, List.mem_cons, List.not_mem_nil, or_false] at hx ⊢
    tauto
  | _ => exact before

namespace Worker

variable {pool : PoolContext} {w w' : Worker W} {s s' : Shared W}

omit [Hosted W] in
theorem holding_eq_nil (idle : w.isBusy = false) : w.holding = [] := by
  unfold isBusy at idle
  unfold holding
  cases phase : w.phase <;> simp_all

/-- A step of a worker brings nothing but what inherits from what there was. -/
theorem Effect.inherits (h : Effect setting pool w s w' s')
    (inherited : Inherited setting.retry pool.pool Q)
    (before : ∀ x ∈ s.queue.items ++ w.holding, Q x) :
    ∀ x ∈ s'.queue.items ++ w'.holding, Q x := by
  cases h with
  | none idle idle' queue =>
    rwa [queue, holding_eq_nil idle', ← holding_eq_nil idle]
  | @take item idle phase' claimed =>
    have split := WorkQueue.perm_of_claim? claimed
    intro x hx
    refine before x ?_
    rw [holding_eq_nil idle, List.append_nil, split.mem_iff]
    simp only [holding, phase', Stage.coming, List.mem_append, List.mem_cons, List.not_mem_nil,
      or_false] at hx ⊢
    tauto
  | work phase phase' change =>
    simp only [holding, phase, phase'] at before ⊢
    exact change.inherits inherited before
  | drop phase spent idle' items =>
    rw [items, holding_eq_nil idle', List.append_nil]
    exact fun x hx => before x (List.mem_append_left _ hx)

/-- A worker that moves has not ended, and stays retired if it is. -/
theorem Change.retired (h : Change setting pool w s w' s') :
    w.summary? = none ∧ (w.retired.isSome = true → w'.retired.isSome = true) := by
  cases h with
  | start phase => exact ⟨by simp only [summary?, phase], retired_start⟩
  | abandon phase =>
    exact ⟨by simp only [summary?, phase], fun h => by rwa [(excused_abandon ..).2.2]⟩
  | leave phase =>
    exact ⟨by simp only [summary?, phase], fun h => by rwa [(idle_leave ..).2.2]⟩
  | expire phase | claim phase | heed phase | quit phase | work phase | release phase | violate phase
  | crash phase | cancel phase => exact ⟨by simp only [summary?, phase], id⟩

/-- Why a worker takes no more work. -/
theorem Change.reason (h : Change setting pool w s w' s') (left : w'.hasLeft = true) :
    w'.IsRetired ∨ s'.cancelled = true ∨ s.queue.exhaustedFor w.device.id = true ∨
      w.hasLeft = true := by
  cases h with
  | start => exact .inl ((excused_start ..).1.isRetired left)
  | heed phase cancelled => exact .inr (.inl cancelled)
  | quit phase exhausted => exact .inr (.inr (.inl exhausted))
  | expire | crash => exact .inl (.inr ⟨_, rfl, rfl, rfl⟩)
  | abandon => exact .inl ((excused_abandon ..).1.isRetired left)
  | leave phase => exact .inr (.inr (.inr (by simp only [hasLeft, phase])))
  | claim | work | release | violate | cancel => cases left

end Worker

namespace PoolState

variable {p p' : PoolState W} {c c' : Common W} {m : PoolMove}

/-- The items of the pool that are queued or in a worker's hands. -/
def inPlay (p : PoolState W) : List WorkItem := p.queue.items ++ p.workers.flatMap Worker.holding

/-- Nothing is queued for a device, and nothing in a worker's hands is for it. -/
def Spent (p : PoolState W) (d : DeviceId) : Prop := NoneFor d p.inPlay

omit [Hosted W] in
theorem mem_inPlay {x : WorkItem} :
    x ∈ p.inPlay ↔ x ∈ p.queue.items ∨ ∃ w ∈ p.workers, x ∈ w.holding := by
  simp [inPlay]

/-- What the pool does itself brings no item into play. -/
theorem Change.inPlay_of_own (h : Change setting p c .own p' c') {x : WorkItem}
    (hx : x ∈ p'.inPlay) : x ∈ p.inPlay := by
  rw [mem_inPlay, h.goesOn.workers] at hx
  exact mem_inPlay.2 (hx.imp_left fun queued => h.goesOn.queued.subset queued)

/-- What all that a pool has in play inherits, it has after every step. -/
theorem Change.inherits (h : Change setting p c m p' c')
    (inherited : Inherited setting.retry p.plan.pool Q) (before : ∀ x ∈ p.inPlay, Q x) :
    ∀ x ∈ p'.inPlay, Q x := by
  rcases h.own_or_shifts with rfl | ⟨j, w, w', -, shifts⟩
  · exact fun x hx => before x (h.inPlay_of_own hx)
  · -- Only the worker that changes brings anything into play, out of the queue or of what it holds.
    have own : ∀ x ∈ p.queue.items ++ w.holding, Q x := by
      intro x hx
      refine before x (mem_inPlay.2 ((List.mem_append.1 hx).imp_right fun held => ?_))
      exact ⟨w, shifts.mem, held⟩
    have own' : ∀ x ∈ p'.queue.items ++ w'.holding, Q x := shifts.effect.inherits inherited own
    intro x hx
    rcases mem_inPlay.1 hx with queued | ⟨v, hv, held⟩
    · exact own' x (List.mem_append_left _ queued)
    · rcases shifts.eq_or_mem hv with rfl | other
      · exact own' x (List.mem_append_right _ held)
      · exact before x (mem_inPlay.2 (.inr ⟨v, other, held⟩))

/-- **Once there is nothing for a device there never is again.** -/
theorem Change.spent (h : Change setting p c m p' c') (spent : p.Spent d) : p'.Spent d :=
  h.inherits WorkItem.inherited_not_compatible spent

omit [Hosted W] in
/-- A device that the queue has nothing for has nothing in play. -/
theorem Tallied.spent (tallied : p.Tallied) (exhausted : p.queue.exhaustedFor d = true) :
    p.Spent d := by
  obtain ⟨none, queue⟩ := WorkQueue.exhaustedFor_iff.1 exhausted
  rw [tallied, List.countP_eq_zero] at none
  intro x hx
  rcases mem_inPlay.1 hx with queued | ⟨w, hw, held⟩
  · exact queue x queued
  · have idle := none w hw
    unfold Worker.isBusy at idle
    unfold Worker.holding at held
    cases phase : w.phase <;> simp_all

/-! ## Devices that took work -/

/-- What the workers that have ended say of their devices. -/
def summaries (p : PoolState W) : List DeviceSummary :=
  p.devices ++ p.workers.filterMap Worker.summary?

/-- Whether a device takes no work: its worker says so, or what the worker left. -/
def Retired (p : PoolState W) (d : DeviceId) : Prop :=
  (∃ w ∈ p.workers, w.device.id = d ∧ w.retired.isSome = true) ∨
    ∃ summary ∈ p.summaries, summary.device = d ∧ summary.retired.isSome = true

omit [Hosted W] in
theorem Retired.of_worker {w : Worker W} (hw : w ∈ p.workers) (retired : w.IsRetired) :
    p.Retired w.device.id := by
  rcases retired with told | ⟨summary, left, own, told⟩
  · exact .inl ⟨w, hw, rfl, told⟩
  · refine .inr ⟨summary, ?_, own, told⟩
    exact List.mem_append_right _ (List.mem_filterMap.2 ⟨w, hw, left⟩)

instance (p : PoolState W) (d : DeviceId) : Decidable (p.Retired d) :=
  inferInstanceAs (Decidable (_ ∨ _))

/-- No summary is lost: what a worker has left is noted when it is gone. -/
theorem Change.summaries (h : Change setting p c m p' c') : p.summaries ⊆ p'.summaries := by
  rcases h.own_or_shifts with rfl | ⟨j, w, w', -, shifts⟩
  · unfold PoolState.summaries
    rw [h.goesOn.workers, h.goesOn.devices]
    exact List.Subset.refl _
  · intro summary known
    rcases List.mem_append.1 known with noted | left
    · exact List.mem_append_left _ (shifts.summaries noted)
    · obtain ⟨v, hv, left⟩ := List.mem_filterMap.1 left
      rcases shifts.eq_or_mem' hv with rfl | other
      · rcases shifts.cause with change | notes
        · rw [change.retired.1] at left
          cases left
        · exact List.mem_append_left _ (notes.summary summary (Worker.summary?_eq_some left))
      · exact List.mem_append_right _ (List.mem_filterMap.2 ⟨v, other, left⟩)

/-- A device that is retired stays so. -/
theorem Change.retired (h : Change setting p c m p' c') (retired : p.Retired d) :
    p'.Retired d := by
  rcases retired with ⟨v, hv, own, told⟩ | ⟨summary, known, own, told⟩
  · rcases h.own_or_shifts with rfl | ⟨j, w, w', -, shifts⟩
    · exact .inl ⟨v, h.goesOn.workers ▸ hv, own, told⟩
    · rcases shifts.eq_or_mem' hv with rfl | other
      · refine .inl ⟨w', shifts.mem', shifts.device ▸ own, ?_⟩
        rcases shifts.cause with change | ⟨-, rfl, -⟩
        · exact change.retired.2 told
        · exact told
      · exact .inl ⟨v, other, own, told⟩
  · exact .inr ⟨summary, h.summaries known, own, told⟩

/-- The items that the pool has yet to account for when its workers have gone. -/
def left (p : PoolState W) : List WorkItem :=
  match p.phase with
  | .accounting left _ => left
  | _ => []

/-- What is left was left before, or was queued when every worker had gone. -/
theorem Change.left (h : Change setting p c m p' c') :
    p'.left ⊆ p.left ∨ p'.left = p.queue.items ∧ (∀ w ∈ p.workers, w.isGone = true) ∧
      c.cancelled = false := by
  rcases h.own_or_shifts with rfl | ⟨j, w, w', -, shifts⟩
  · cases h.turn with
    | begin phase underway =>
      rcases underway with rfl | ⟨e, rfl⟩ <;> exact .inl (List.nil_subset _)
    | out goesOn out =>
      have nothing : p'.left = [] := by
        unfold PoolState.left
        cases phase : p'.phase <;> simp_all [PoolPhase.isOut]
      rw [nothing]
      exact .inl (List.nil_subset _)
    | drain phase gone called => exact .inr ⟨rfl, gone, called⟩
    | @account item left =>
      rename_i phase _
      have before : p.left = item :: left := by simp only [PoolState.left, phase]
      rw [before]
      exact .inl (List.subset_cons_self _ _)
    | conclude => exact .inl (List.nil_subset _)
  · have nothing : p'.left = [] := by simp only [PoolState.left, shifts.phase']
    rw [nothing]
    exact .inl (List.nil_subset _)

/-- Every device has its worker, and a worker that takes no more work is retired, or there is
nothing in play for its device, unless the run was called off. -/
structure Settled (p : PoolState W) (off : Bool) : Prop where
  staffed : p.workers.map (fun w => w.device) = p.plan.pool.devices
  tallied : p.Tallied
  ended : ∀ w ∈ p.workers, w.hasLeft = true →
    p.Retired w.device.id ∨ off = true ∨ p.Spent w.device.id
  drained : ∀ device ∈ p.plan.pool.devices, p.Retired device.id ∨ NoneFor device.id p.left

/-- A worker that takes no more work has its reason, after a step as before it. -/
theorem Change.ended (h : Change setting p c m p' c') (settled : p.Settled c.cancelled) :
    ∀ w ∈ p'.workers, w.hasLeft = true →
      p'.Retired w.device.id ∨ c'.cancelled = true ∨ p'.Spent w.device.id := by
  have before {w : Worker W} (hw : w ∈ p.workers) (left : w.hasLeft = true) :
      p'.Retired w.device.id ∨ c'.cancelled = true ∨ p'.Spent w.device.id :=
    (settled.ended w hw left).imp h.retired (Or.imp h.cancelled h.spent)
  intro v hv left
  rcases h.own_or_shifts with rfl | ⟨j, w, w', -, shifts⟩
  · exact before (h.goesOn.workers ▸ hv) left
  · rcases shifts.eq_or_mem hv with rfl | other
    · rw [shifts.device]
      rcases shifts.cause with change | notes
      · rcases change.reason left with retired | off | exhausted | earlier
        · exact .inl (change.device ▸ .of_worker hv retired)
        · exact .inr (.inl off)
        · exact .inr (.inr (h.spent (settled.tallied.spent exhausted)))
        · exact before shifts.mem earlier
      · obtain ⟨outcome, stopped⟩ := notes.stopped
        cases outcome with
        | ok summary =>
          have left : w.hasLeft = true := by simp only [Worker.hasLeft, stopped]
          exact before shifts.mem left
        | error e => exact .inr (.inl (notes.error e stopped))
    · exact before other left

theorem Change.settled (h : Change setting p c m p' c') (settled : p.Settled c.cancelled) :
    p'.Settled c'.cancelled where
  staffed := by rw [h.crew, h.plan, settled.staffed]
  tallied := h.tallied settled.tallied
  ended := h.ended settled
  drained := by
    rw [h.plan]
    intro device planned
    rcases h.left with fewer | ⟨queued, gone, fine⟩
    · exact (settled.drained device planned).imp h.retired fun none x hx => none x (fewer hx)
    · rw [← settled.staffed] at planned
      obtain ⟨w, hw, rfl⟩ := List.mem_map.1 planned
      have left : w.hasLeft = true := by
        simp only [Worker.hasLeft, Worker.isGone_iff.1 (gone w hw)]
      rcases settled.ended w hw left with retired | off | spent
      · exact .inl (h.retired retired)
      · exact absurd off (by simp [fine])
      · rw [queued]
        exact .inr fun x hx => spent x (mem_inPlay.2 (.inl hx))

omit [Hosted W] in
theorem settled_ofPlan (plan : PoolPlan) : (ofPlan (W := W) plan).Settled false where
  staffed := by simp [ofPlan, Worker.ofDevice, Function.comp_def]
  tallied := tallied_ofPlan plan
  ended := by
    intro w hw left
    simp [Worker.hasLeft, phase_of_mem_ofPlan hw] at left
  drained := fun _ _ => .inr fun x hx => by cases hx

end PoolState

/-! ## Runs -/

theorem RunState.Reachable.settled {world : W} {quota i : Nat} {plans : List PoolPlan}
    {s : RunState W} {p : PoolState W} (reachable : Reachable setting (ofPlans world quota plans) s)
    (at_i : s.pools[i]? = some p) : p.Settled s.common.cancelled := by
  obtain ⟨past, trace⟩ := reachable.trace
  refine (trace.induct_ofPlans (fun _ p off => p.Settled off) ?_ ?_ ?_ at_i).2
  · exact fun plan _ => PoolState.settled_ofPlan plan
  · exact fun _ _ settled => { settled with ended := fun _ _ _ => .inr (.inl rfl) }
  · exact fun _ _ _ _ _ _ settled change => change.settled settled

theorem RunState.Reachable.spent {s t : RunState W} {i : Nat} {p q : PoolState W}
    (reachable : Reachable setting s t) (tallied : s.Tallied) (before : s.pools[i]? = some p)
    (after : t.pools[i]? = some q) (spent : p.Spent d) : q.Spent d := by
  obtain ⟨past, trace⟩ := reachable.trace
  refine trace.induct (fun _ p _ => p.Spent d) (fun _ _ spent => spent) ?_ tallied ?_ q after
  · intro past p c m p' c' spent change
    exact change.spent spent
  · intro p' hp
    obtain rfl := Option.some.inj (before.symm.trans hp)
    exact spent

/-- Workers neither stop too early nor wait for nothing, whoever moves when. Once nothing is in
flight and nothing queued is for a device, nothing for it is ever queued or in a worker's hands again.
When all workers have ended nothing is in flight, and unless the run was called off what is queued
is for none of the pool's devices but those that are retired. The same goes for what is left
while the pool accounts for it. -/
theorem exhausted_for_good {world : W} {quota i : Nat} {plans : List PoolPlan} {s : RunState W}
    {p : PoolState W} (reachable : RunState.Reachable setting (.ofPlans world quota plans) s)
    (at_i : s.pools[i]? = some p) :
    (∀ d, p.queue.exhaustedFor d = true →
      ∀ t q, RunState.Reachable setting s t → t.pools[i]? = some q →
        ∀ item ∈ q.inPlay, item.compatible d = false) ∧
    ((∀ w ∈ p.workers, w.hasEnded = true) →
      p.queue.inFlight = 0 ∧
        (s.common.cancelled = false →
          ∀ d ∈ p.plan.pool.deviceIds, ¬ p.Retired d →
            ∀ item ∈ p.queue.items, item.compatible d = false)) ∧
    (∀ d ∈ p.plan.pool.deviceIds, ¬ p.Retired d → ∀ item ∈ p.left, item.compatible d = false) := by
  have settled := reachable.settled at_i
  refine ⟨?_, ?_, ?_⟩
  · intro d exhausted t q later at_i'
    exact later.spent reachable.tallied at_i at_i' (settled.tallied.spent exhausted)
  · intro ended
    constructor
    · rw [settled.tallied, List.countP_eq_zero]
      intro w hw
      have ended := ended w hw
      unfold Worker.hasEnded at ended
      unfold Worker.isBusy
      cases phase : w.phase <;> simp_all
    · intro called d hd working item hitem
      obtain ⟨device, planned, rfl⟩ := List.mem_map.1 hd
      rw [← settled.staffed] at planned
      obtain ⟨w, hw, rfl⟩ := List.mem_map.1 planned
      have left : w.hasLeft = true := by
        have ended := ended w hw
        unfold Worker.hasEnded at ended
        unfold Worker.hasLeft
        split at ended <;> simp_all
      rcases settled.ended w hw left with retired | off | spent
      · exact absurd retired working
      · simp [called] at off
      · exact spent item (PoolState.mem_inPlay.2 (.inl hitem))
  · intro d hd working
    obtain ⟨device, planned, rfl⟩ := List.mem_map.1 hd
    exact (settled.drained device planned).resolve_left working

end Steps

namespace Sample

/-- Whether the workers have ended, and one item waits, in a run that was not called off. -/
def isOver (run : RunState.History Host × RunState Host) : Bool :=
  !run.2.common.cancelled && run.2.pools[0]?.any fun p =>
    p.workers.all (·.hasEnded) && !decide (p.Retired ⟨"a"⟩) && p.queue.items.length == 1 &&
      decide (⟨"a"⟩ ∈ p.plan.pool.deviceIds)

/-- Whether there is nothing for `a`, and the workers can end. -/
def isSpent (run : RunState.History Host × RunState Host) : Bool :=
  run.2.pools[0]?.any (fun p => p.queue.exhaustedFor ⟨"a"⟩) &&
    (run.2.follow setting (ending.take 7)).any isOver

end Sample

/-- There is nothing for `a` once both attempts have failed, and an item is left that only `c` could
run. -/
theorem exhausted_of_sample : ∃ s t p q,
    RunState.Reachable Sample.setting Sample.start s ∧ RunState.Reachable Sample.setting s t ∧
      s.pools[0]? = some p ∧ t.pools[0]? = some q ∧ p.queue.exhaustedFor ⟨"a"⟩ = true ∧
      (∀ w ∈ q.workers, w.hasEnded = true) ∧ t.common.cancelled = false ∧
      ¬ q.Retired ⟨"a"⟩ ∧ q.queue.items.length = 1 ∧
      (∀ item ∈ q.inPlay, item.compatible ⟨"a"⟩ = false) ∧ q.queue.inFlight = 0 ∧
      ∀ item ∈ q.queue.items, item.compatible ⟨"a"⟩ = false := by
  obtain ⟨_, s, before, passes⟩ := RunState.exists_trace_of_follow Sample.setting Sample.start
    (Sample.opening ++ Sample.overtaking) Sample.isSpent (by decide +kernel)
  obtain ⟨now, later⟩ := Bool.and_eq_true_iff.1 passes
  obtain ⟨p, at_s, exhausted⟩ := (Option.any_eq_true _ _).1 now
  obtain ⟨_, t, after, passes⟩ := RunState.exists_trace_of_follow Sample.setting s
    (Sample.ending.take 7) Sample.isOver later
  obtain ⟨called, ends⟩ := Bool.and_eq_true_iff.1 passes
  obtain ⟨q, at_t, ends⟩ := (Option.any_eq_true _ _).1 ends
  simp only [Bool.and_eq_true, List.all_eq_true, Bool.not_eq_true', decide_eq_false_iff_not,
    decide_eq_true_eq, beq_iff_eq] at called ends
  obtain ⟨⟨⟨ended, working⟩, waiting⟩, own⟩ := ends
  have reachable := before.reachable
  have all := exhausted_for_good (reachable.trans after.reachable) at_t
  have once := (exhausted_for_good reachable at_s).1 ⟨"a"⟩ exhausted t q after.reachable at_t
  exact ⟨s, t, p, q, reachable, after.reachable, at_s, at_t, exhausted, ended, called, working,
    waiting, once, (all.2.1 ended).1, (all.2.1 ended).2 called ⟨"a"⟩ own working⟩

end TestFleet
