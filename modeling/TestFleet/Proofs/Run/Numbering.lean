import TestFleet.Proofs.Run.Stranded
import TestFleet.Proofs.Run.Termination
/-!
# The numbers of attempts

An attempt is made when a worker moves on from an item that it has just taken up, and its number is
how often the item has failed before. What is past shows the attempts made (`Past.attempts`). The
numbers that are still due are those of the queued items and of the items that workers are about to
attempt, or have attempted and may offer again (`PoolState.due`). There is at most one of them for a
test, and it is the number after those of the attempts made (`PoolState.Numbered`): so the attempts
at a test are numbered without a gap and without a repetition, whatever becomes of them.
-/
namespace TestFleet

open RunState (Past History)
open WorkItem (Inherited)

variable {W : Type}

/-! ## What moves show -/

namespace Worker

/-- The item that the worker attempts when it moves. -/
def attempting (w : Worker W) : List WorkItem :=
  match w.phase with
  | .busy item .attempting => [item]
  | _ => []

/-- The next attempt that the worker offers when it moves. -/
def offering (w : Worker W) : List WorkItem :=
  match w.phase with
  | .busy _ stage => stage.coming
  | _ => []

theorem attempting_eq_nil {w : Worker W} (idle : w.isBusy = false) : w.attempting = [] := by
  unfold isBusy at idle
  unfold attempting
  cases phase : w.phase <;> simp_all

theorem offering_eq_nil {w : Worker W} (idle : w.isBusy = false) : w.offering = [] := by
  unfold isBusy at idle
  unfold offering
  cases phase : w.phase <;> simp_all

/-- What is attempted is in the worker's hands. -/
theorem attempting_subset_holding (w : Worker W) : w.attempting ⊆ w.holding := by
  unfold attempting holding
  cases w.phase with
  | busy item stage =>
    cases stage with
    | attempting => exact List.cons_subset_cons item (List.nil_subset _)
    | _ => exact List.nil_subset _
  | _ => exact List.nil_subset _

end Worker

/-- What a move shows of the worker that makes it. -/
def PoolState.shown {α : Type} (look : Worker W → List α) (p : PoolState W) : PoolMove → List α
  | .worker j => (p.workers[j]?.toList).flatMap look
  | .own | .join _ => []

theorem PoolState.shown_worker {α : Type} {look : Worker W → List α} {p : PoolState W} {j : Nat}
    {w : Worker W} (at_j : p.workers[j]? = some w) : p.shown look (.worker j) = look w := by
  simp [shown, at_j]

namespace RunState

/-- What the moves of a pool showed of the workers that made them. -/
def Past.shown {α : Type} (look : Worker W → List α) (past : Past W) : List α :=
  past.flatMap fun (p, m) => p.shown look m

/-- What the moves of a run showed of the workers that made them. -/
def History.shown {α : Type} (look : Worker W → List α) (h : History W) : List α :=
  h.flatMap fun (s, move) => (s.pools[move.place]?.toList).flatMap fun p => p.shown look move.mover

/-- The attempts made in a pool, in the order in which they were made. -/
def Past.attempts (past : Past W) : List WorkItem := past.shown Worker.attempting

/-- The attempts made in a run. -/
def History.attempts (h : History W) : List WorkItem := h.shown Worker.attempting

/-- The next attempts that were offered in a run. -/
def History.offers (h : History W) : List WorkItem := h.shown Worker.offering

/-- The numbers of the attempts at a test that were made in a pool. -/
def Past.numbers (past : Past W) (key : TestKey) : List Nat :=
  (past.attempts.filter fun x => x.key == key).map (·.failures)

variable {α : Type} {look : Worker W → List α} {past : Past W} {p : PoolState W} {m : PoolMove}

theorem Past.shown_append : Past.shown look (past ++ [(p, m)]) = past.shown look ++ p.shown look m := by
  simp [Past.shown]

theorem History.shown_append {h : History W} {s : RunState W} {move : RunMove}
    (at_place : s.pools[move.place]? = some p) :
    History.shown look (h ++ [(s, move)]) = h.shown look ++ p.shown look move.mover := by
  simp [History.shown, at_place]

theorem Past.numbers_append {key : TestKey} :
    Past.numbers (past ++ [(p, m)]) key =
      past.numbers key ++
        ((p.shown Worker.attempting m).filter fun x => x.key == key).map (·.failures) := by
  simp [Past.numbers, Past.attempts, Past.shown_append]

end RunState

/-- When a worker changes, what it has to show is shown. If the pool takes note of its end it has
nothing to show. -/
theorem PoolState.Change.shown [Hosted W] {α : Type} {setting : Setting W} {look : Worker W → List α}
    {p p' : PoolState W} {c c' : Common W} {m : PoolMove} {j : Nat} {w : Worker W}
    (nothing : ∀ {w : Worker W}, w.isBusy = false → look w = [])
    (h : Change setting p c m p' c') (moved : m.worker? = some j) (at_j : p.workers[j]? = some w) :
    p.shown look m = look w := by
  cases m with
  | own => cases moved
  | worker i =>
    obtain rfl := Option.some.inj moved
    exact PoolState.shown_worker at_j
  | join i =>
    obtain rfl := Option.some.inj moved
    have idle : w.isBusy = false := by
      cases h with
      | join _ at_i stopped | joinFailed _ at_i stopped =>
        obtain rfl := Option.some.inj (at_j.symm.trans at_i)
        simp only [Worker.isBusy, stopped]
    rw [nothing idle]
    rfl

/-! ## Numbers that are due -/

/-- The number of an attempt, with the test that it is an attempt at. -/
def WorkItem.numbered (item : WorkItem) : TestKey × Nat := (item.key, item.failures)

theorem WorkItem.numbered_nextAttempt {settings : RetrySettings} {failed : DeviceId}
    {pool : DevicePool} (item : WorkItem) :
    (item.nextAttempt settings failed pool).numbered = item.successor.numbered := by
  rw [numbered, key_nextAttempt, failures_nextAttempt]
  rfl

namespace Worker

/-- The number of the next attempt that can come from the worker's hands. -/
def due (w : Worker W) : List (TestKey × Nat) :=
  match w.phase with
  | .busy item .attempting => [item.numbered]
  | .busy item (.deciding _) => [item.successor.numbered]
  | .busy _ (.offering next _) => [next.numbered]
  | _ => []

theorem due_eq_nil {w : Worker W} (idle : w.isBusy = false) : w.due = [] := by
  unfold isBusy at idle
  unfold due
  cases phase : w.phase <;> simp_all

/-- A number that is due is due for the item in the worker's hands. -/
theorem keys_due {setting : Setting W} {pool : PoolContext} {w : Worker W}
    (sound : w.Sound setting pool) :
    (w.due.map Prod.fst).Sublist (w.open?.toList.map WorkItem.key) := by
  unfold Sound at sound
  unfold due open?
  cases phase : w.phase with
  | busy item stage =>
    simp only [phase] at sound
    cases stage with
    | attempting => exact .refl _
    | deciding r => exact .refl _
    | offering next r =>
      rw [sound.2]
      simp [WorkItem.numbered, Stage.isOpen]
    | _ => exact List.nil_sublist _
  | _ => exact List.nil_sublist _

end Worker

section Steps

variable [Hosted W] {setting : Setting W}

namespace Worker

variable {pool : PoolContext} {w w' : Worker W} {s s' : Shared W}

/-- A step of a worker makes no attempt and brings no number, or it makes the attempt that is due from
its hands, and the next number is due then. -/
theorem Effect.due (h : Effect setting pool w s w' s') :
    (w.attempting = [] ∧
        s'.queue.items.map WorkItem.numbered ++ w'.due ⊆
          s.queue.items.map WorkItem.numbered ++ w.due) ∨
      ∃ item, w.attempting = [item] ∧ w.due = [item.numbered] ∧ s'.queue = s.queue ∧
        w'.due ⊆ [item.successor.numbered] := by
  cases h with
  | none idle idle' queue =>
    refine .inl ⟨attempting_eq_nil idle, ?_⟩
    rw [queue, due_eq_nil idle, due_eq_nil idle']
    exact List.Subset.refl _
  | @take item idle phase' claimed =>
    refine .inl ⟨attempting_eq_nil idle, ?_⟩
    have split := (WorkQueue.perm_of_claim? claimed).map WorkItem.numbered
    have after : w'.due = [item.numbered] := by simp only [Worker.due, phase']
    rw [due_eq_nil idle, after, List.append_nil]
    exact ((List.perm_append_singleton _ _).trans split.symm).subset
  | @work item stage stage' phase phase' change =>
    cases change with
    | attempted | violated | rescued =>
      refine .inr ⟨item, by simp only [attempting, phase], by simp only [Worker.due, phase], rfl, ?_⟩
      simp [Worker.due, phase']
    | retried retry =>
      obtain ⟨-, -, rfl⟩ := WorkItem.retry?_eq_some_iff.1 retry
      refine .inl ⟨by simp only [attempting, phase], ?_⟩
      simp [Worker.due, phase, phase', WorkItem.numbered_nextAttempt]
    | offered accepted =>
      obtain ⟨-, -, rfl⟩ := WorkQueue.offer_eq_ok_iff.1 accepted
      refine .inl ⟨by simp only [attempting, phase], ?_⟩
      simp [Worker.due, phase, phase']
    | settled | refused | stashed | announced | interrupted | crashed | kept =>
      refine .inl ⟨by simp only [attempting, phase], ?_⟩
      simp [Worker.due, phase']
  | @drop item stage phase spent idle' items =>
    refine .inl ⟨?_, ?_⟩
    · unfold attempting
      cases stage <;> simp_all [Stage.isSpent]
    · rw [items, due_eq_nil idle', List.append_nil]
      exact List.subset_append_left _ _

end Worker

namespace PoolState

variable {past : Past W} {p p' : PoolState W} {c c' : Common W} {m : PoolMove}

/-- The numbers of the attempts that are to come in the pool. -/
def due (p : PoolState W) : List (TestKey × Nat) :=
  p.queue.items.map WorkItem.numbered ++ p.workers.flatMap Worker.due

omit [Hosted W] in
theorem mem_due {d : TestKey × Nat} :
    d ∈ p.due ↔ d ∈ p.queue.items.map WorkItem.numbered ∨ ∃ w ∈ p.workers, d ∈ w.due := by
  simp only [due, List.mem_append, List.mem_flatMap]

omit [Hosted W] in
/-- At most one number is due for a test. -/
theorem nodup_due (sound : p.Sound setting) (apart : p.entries.Nodup) :
    (p.due.map Prod.fst).Nodup := by
  have queued : (p.queue.items.map WorkItem.numbered).map Prod.fst =
      p.queue.items.map WorkItem.key := by
    rw [List.map_map]
    rfl
  have inHand : ((p.workers.flatMap Worker.due).map Prod.fst).Sublist
      ((p.workers.filterMap Worker.open?).map WorkItem.key) := by
    unfold PoolState.Sound at sound
    generalize p.workers = workers at sound ⊢
    induction workers with
    | nil => exact List.nil_sublist _
    | cons w rest ih =>
      rw [List.flatMap_cons, List.map_append, filterMap_cons_toList, List.map_append]
      have first := Worker.keys_due (sound w List.mem_cons_self)
      exact first.append (ih fun v hv => sound v (List.mem_cons_of_mem _ hv))
  unfold PoolState.entries TestFleet.entries at apart
  rw [due, List.map_append, queued]
  exact (((List.Sublist.refl _).append inHand).trans (List.sublist_append_left _ _)).nodup apart

/-- When a worker changes, no attempt is made and no number comes up; or the attempt is made whose
number is due for its test, and the next number can be due then. -/
theorem Shifts.due {j : Nat} {w w' : Worker W} (shifts : Shifts setting p c j w w' p' c')
    (sound : p.Sound setting) (apart : p.entries.Nodup) :
    (w.attempting = [] ∧ p'.due ⊆ p.due) ∨
      ∃ item, w.attempting = [item] ∧ item.numbered ∈ p.due ∧
        ∀ d ∈ p'.due, d ∈ p.due ∧ d.1 ≠ item.key ∨ d = item.successor.numbered := by
  rcases shifts.effect.due with ⟨none, fewer⟩ | ⟨item, made, own, queue, next⟩
  · refine .inl ⟨none, fun d hd => ?_⟩
    have here (hd : d ∈ p'.queue.items.map WorkItem.numbered ++ w'.due) : d ∈ p.due :=
      mem_due.2 ((List.mem_append.1 (fewer hd)).imp_right fun held => ⟨w, shifts.mem, held⟩)
    rcases mem_due.1 hd with queued | ⟨v, hv, held⟩
    · exact here (List.mem_append_left _ queued)
    · rcases shifts.eq_or_mem hv with rfl | other
      · exact here (List.mem_append_right _ held)
      · exact mem_due.2 (.inr ⟨v, other, held⟩)
  · obtain ⟨others, before, after⟩ := shifts.exists_others
    -- What is due elsewhere is due for other tests, and it is not touched.
    have split : p.due.Perm (item.numbered ::
        (p.queue.items.map WorkItem.numbered ++ others.flatMap Worker.due)) := by
      have before := before.flatMap_right Worker.due
      rw [List.flatMap_cons, own] at before
      exact (before.append_left _).trans List.perm_middle
    have keys := (split.map Prod.fst).nodup_iff.1 (nodup_due sound apart)
    refine .inr ⟨item, made, split.mem_iff.2 List.mem_cons_self, fun d hd => ?_⟩
    have elsewhere (hd : d ∈ p.queue.items.map WorkItem.numbered ++ others.flatMap Worker.due) :
        d ∈ p.due ∧ d.1 ≠ item.key := by
      refine ⟨split.mem_iff.2 (List.mem_cons_of_mem _ hd), fun same => ?_⟩
      exact (List.nodup_cons.1 keys).1 (List.mem_map.2 ⟨d, hd, same⟩)
    rcases mem_due.1 hd with queued | ⟨v, hv, held⟩
    · have queue : p'.queue = p.queue := queue
      exact .inl (elsewhere (List.mem_append_left _ (queue ▸ queued)))
    · rcases List.mem_cons.1 (after.mem_iff.1 hv) with rfl | other
      · exact .inr (List.mem_singleton.1 (next held))
      · exact .inl (elsewhere (List.mem_append_right _ (List.mem_flatMap.2 ⟨v, other, held⟩)))

/-- What is known of the attempts at a planned test: their numbers begin with that of the item
planned and have no gap, and a number that is due is the next. -/
def Numbered (first : WorkItem) (past : Past W) (p : PoolState W) : Prop :=
  ∃ n, past.numbers first.key = List.range' first.failures n ∧
    ∀ d ∈ p.due, d.1 = first.key → d.2 = first.failures + n

variable {first : WorkItem}

theorem Numbered.shifts {j : Nat} {w w' : Worker W} (numbered : Numbered first past p)
    (h : Change setting p c m p' c') (moved : m.worker? = some j)
    (shifts : Shifts setting p c j w w' p' c') (sound : p.Sound setting)
    (apart : p.entries.Nodup) : Numbered first (past ++ [(p, m)]) p' := by
  obtain ⟨n, numbers, due⟩ := numbered
  have shown : p.shown Worker.attempting m = w.attempting :=
    h.shown Worker.attempting_eq_nil moved shifts.at_j
  unfold Numbered
  rw [Past.numbers_append, shown]
  rcases shifts.due sound apart with ⟨none, fewer⟩ | ⟨item, made, was_due, next⟩
  · refine ⟨n, by simpa [none] using numbers, fun d hd => due d (fewer hd)⟩
  · by_cases own : item.key = first.key
    · have number : item.failures = first.failures + n := due _ was_due own
      refine ⟨n + 1, ?_, fun d hd same => ?_⟩
      · rw [numbers, made, List.range'_concat]
        simp [own, number]
      · rcases next d hd with ⟨-, other⟩ | rfl
        · exact absurd (same.trans own.symm) other
        · have step : item.successor.failures = item.failures + 1 := rfl
          simp only [WorkItem.numbered, step, number]
          omega
    · refine ⟨n, by simpa [made, own] using numbers, fun d hd same => ?_⟩
      rcases next d hd with ⟨earlier, -⟩ | rfl
      · exact due d earlier same
      · exact absurd same own

/-- The pool itself makes no attempt and brings no number. -/
theorem Numbered.own (numbered : Numbered first past p) (h : Change setting p c .own p' c') :
    Numbered first (past ++ [(p, .own)]) p' := by
  obtain ⟨n, numbers, due⟩ := numbered
  refine ⟨n, by simpa [Past.numbers_append, PoolState.shown] using numbers, fun d hd => due d ?_⟩
  rw [mem_due, h.goesOn.workers] at hd
  exact mem_due.2 (hd.imp_left fun queued => (h.goesOn.queued.map _).subset queued)

omit [Hosted W] in
/-- Among the items that are queued at first no two are of the same test. -/
theorem eq_of_key_eq {plan : PoolPlan} {x : WorkItem} (planned : first ∈ WorkQueue.firsts plan.items)
    (queued : x ∈ WorkQueue.firsts plan.items) (same : x.key = first.key) : x = first :=
  List.inj_on_of_nodup_map (WorkQueue.distinct_firsts plan.items) queued planned same

omit [Hosted W] in
theorem numbered_ofPlan {plan : PoolPlan} (planned : first ∈ WorkQueue.firsts plan.items) :
    Numbered first [] (ofPlan (W := W) plan) := by
  refine ⟨0, rfl, fun d hd same => ?_⟩
  rcases mem_due.1 hd with queued | ⟨w, hw, held⟩
  · obtain ⟨x, hx, rfl⟩ := List.mem_map.1 queued
    obtain rfl := eq_of_key_eq planned hx same
    rfl
  · rw [Worker.due_eq_nil (isBusy_of_mem_ofPlan hw)] at held
    cases held

/-! ## Bounds -/

/-- An item of a planned test has failed as often as the item that was planned, or its last retry was
within the quota of a test. -/
def Bounded (settings : RetrySettings) (first : WorkItem) (x : WorkItem) : Prop :=
  x.key = first.key → x.failures ≤ max first.failures settings.perTest

omit [Hosted W] in
theorem inherited_bounded (settings : RetrySettings) (pool : DevicePool) :
    Inherited settings pool (Bounded settings first) := by
  intro item failed allowed _ _
  rw [WorkItem.failures_nextAttempt]
  exact Nat.le_trans allowed (Nat.le_max_right _ _)

omit [Hosted W] in
theorem mem_inPlay_ofPlan {plan : PoolPlan} {x : WorkItem} (hx : x ∈ (ofPlan (W := W) plan).inPlay) :
    x ∈ WorkQueue.firsts plan.items := by
  refine (mem_inPlay.1 hx).resolve_right ?_
  rintro ⟨w, hw, held⟩
  rw [Worker.holding_eq_nil (isBusy_of_mem_ofPlan hw)] at held
  cases held

omit [Hosted W] in
/-- What is attempted was in play. -/
theorem shown_attempting_subset (p : PoolState W) (m : PoolMove) :
    p.shown Worker.attempting m ⊆ p.inPlay := by
  intro x hx
  cases m with
  | worker j =>
    obtain ⟨w, at_j, made⟩ := List.mem_flatMap.1 hx
    refine mem_inPlay.2 (.inr ⟨w, ?_, w.attempting_subset_holding made⟩)
    exact List.mem_of_getElem? (Option.mem_toList.1 at_j)
  | own | join j => cases hx

end PoolState

/-! ## Runs -/

namespace RunState

variable {world : W} {quota i : Nat} {plans : List PoolPlan} {history : History W} {s : RunState W}

theorem Reachable.length_pools (reachable : Reachable setting (ofPlans world quota plans) s) :
    s.pools.length = plans.length := by
  induction reachable with
  | refl => exact List.length_map _
  | step move earlier stepped ih =>
    obtain ⟨p, p', c', -, -, rfl⟩ := earlier.step_eq_some stepped
    rw [← ih]
    exact List.length_set

/-- Every planned pool takes part in the run. -/
theorem Trace.exists_pool {plan : PoolPlan} (trace : Trace setting (ofPlans world quota plans) history s)
    (planned : plans[i]? = some plan) : ∃ p, s.pools[i]? = some p := by
  have inside := (List.getElem?_eq_some_iff.1 planned).1
  exact ⟨_, List.getElem?_eq_getElem (trace.reachable.length_pools ▸ inside)⟩

/-- What is known of a pool that has been run so far. -/
theorem Trace.recorded {p : PoolState W} (trace : Trace setting (ofPlans world quota plans) history s)
    (at_i : s.pools[i]? = some p) :
    plans[i]? = some p.plan ∧ PoolState.Recorded setting (history.ofPool i) p :=
  trace.induct_ofPlans (fun past p _ => PoolState.Recorded setting past p)
    (fun plan _ => ⟨PoolState.sound_ofPlan setting plan, PoolState.underway_ofPlan plan⟩)
    (fun _ _ recorded => recorded)
    (fun _ _ _ _ _ _ recorded change => change.recorded recorded) at_i

/-- While a pool works its tests are apart: none of them is queued, in hand or among the results
twice. -/
theorem Trace.apart {p : PoolState W} (trace : Trace setting (ofPlans world quota plans) history s)
    (at_i : s.pools[i]? = some p) (phase : p.phase = .working) : p.entries.Nodup := by
  have known := (trace.recorded at_i).2.known
  rw [phase] at known
  exact known.apart

theorem Trace.numbered {plan : PoolPlan} {first : WorkItem} {p : PoolState W}
    (trace : Trace setting (ofPlans world quota plans) history s) (planned : plans[i]? = some plan)
    (hfirst : first ∈ WorkQueue.firsts plan.items) (at_i : s.pools[i]? = some p) :
    PoolState.Numbered first (history.ofPool i) p := by
  have known := trace.induct_ofPlans
    (fun past p _ => PoolState.Recorded setting past p ∧ PoolState.Numbered first past p)
    (fun plan' planned' => by
      obtain rfl := Option.some.inj (planned.symm.trans planned')
      exact ⟨⟨PoolState.sound_ofPlan setting plan, PoolState.underway_ofPlan plan⟩,
        PoolState.numbered_ofPlan hfirst⟩)
    (fun _ _ known => known)
    (fun past p c m p' c' known change => by
      obtain ⟨recorded, numbered⟩ := known
      refine ⟨change.recorded recorded, ?_⟩
      rcases change.own_or_shifts with rfl | ⟨j, w, w', moved, shifts⟩
      · exact numbered.own change
      · have underway := recorded.known
        rw [shifts.phase] at underway
        exact numbered.shifts change moved shifts recorded.sound underway.apart) at_i
  exact known.2.2

/-- What a planned item leads to within a run keeps what it inherits: every attempt made, and every
item that is queued or in a worker's hands. -/
theorem Trace.inherits {Q : WorkItem → Prop} {plan : PoolPlan} {p : PoolState W}
    (trace : Trace setting (ofPlans world quota plans) history s) (planned : plans[i]? = some plan)
    (inherited : Inherited setting.retry plan.pool Q)
    (before : ∀ x ∈ WorkQueue.firsts plan.items, Q x) (at_i : s.pools[i]? = some p) :
    (∀ x ∈ Past.attempts (history.ofPool i), Q x) ∧ ∀ x ∈ p.inPlay, Q x := by
  have known := trace.induct_ofPlans
    (fun past p _ => p.plan = plan ∧ (∀ x ∈ Past.attempts past, Q x) ∧ ∀ x ∈ p.inPlay, Q x)
    (fun plan' planned' => by
      obtain rfl := Option.some.inj (planned.symm.trans planned')
      exact ⟨rfl, nofun, fun x hx => before x (PoolState.mem_inPlay_ofPlan hx)⟩)
    (fun _ _ known => known)
    (fun past p c m p' c' known change => by
      obtain ⟨rfl, made, play⟩ := known
      refine ⟨change.plan, fun x hx => ?_, change.inherits inherited play⟩
      rw [Past.attempts, Past.shown_append] at hx
      rcases List.mem_append.1 hx with earlier | now_made
      · exact made x earlier
      · exact play x (p.shown_attempting_subset m now_made)) at_i
  exact known.2.2

/-- **The attempts at a planned test have consecutive numbers**, each of them once, and no retry
leads past the quota of a test. -/
theorem Trace.numbers_eq {plan : PoolPlan} {first : WorkItem}
    (trace : Trace setting (ofPlans world quota plans) history s) (planned : plans[i]? = some plan)
    (hfirst : first ∈ WorkQueue.firsts plan.items) :
    ∃ n, Past.numbers (history.ofPool i) first.key = List.range' first.failures n ∧
      ∀ k ∈ Past.numbers (history.ofPool i) first.key,
        k ≤ max first.failures setting.retry.perTest := by
  obtain ⟨p, at_i⟩ := trace.exists_pool planned
  obtain ⟨n, numbers, -⟩ := trace.numbered planned hfirst at_i
  have before : ∀ x ∈ WorkQueue.firsts plan.items, PoolState.Bounded setting.retry first x := by
    intro x queued same
    rw [PoolState.eq_of_key_eq hfirst queued same]
    exact Nat.le_max_left _ _
  have bounded := (trace.inherits planned (PoolState.inherited_bounded _ _) before at_i).1
  refine ⟨n, numbers, fun k hk => ?_⟩
  obtain ⟨x, hx, rfl⟩ := List.mem_map.1 hk
  obtain ⟨made, own⟩ := List.mem_filter.1 hx
  exact bounded x made (eq_of_beq own)

end RunState

end Steps

end TestFleet
