import TestFleet.Proofs.Run.Account
/-!
# The attempts at a test

What is past tells which attempts at a test were made (`Past.made`) and in which order those that a
retry superseded were kept (`Past.kept`). While the next attempt at a test is to come its earlier
ones are numbered without a gap, and each of them is kept or about to be (`PoolState.Traced`). The
orders need not agree: the next attempt is offered before the one that asked for it is kept.
-/
namespace TestFleet

open RunState (Past)

variable {W : Type}

/-! ## Attempts in hand -/

namespace Stage

/-- The result that is to be decided on. -/
def made? : Stage → Option TestResult
  | .deciding r => some r
  | _ => none

/-- The result that is to be kept as superseded now. -/
def stashed? : Stage → Option TestResult
  | .stashing r => some r
  | _ => none

/-- The result that is to be kept as superseded now, or once the next attempt is offered. -/
def awaited? : Stage → Option TestResult
  | .offering _ r | .stashing r => some r
  | _ => none

/-- The attempt that is to come at a stage of an item. -/
def upcoming? (item : WorkItem) : Stage → Option WorkItem
  | .attempting | .deciding _ => some item
  | .offering next _ => some next
  | _ => none

theorem nothing_of_isSpent {stage : Stage} (spent : stage.isSpent = true) :
    stage.made? = none ∧ stage.stashed? = none ∧ stage.awaited? = none := by
  cases stage with
  | releasing fatal => exact ⟨rfl, rfl, rfl⟩
  | crashing m => exact ⟨rfl, rfl, rfl⟩
  | _ => cases spent

end Stage

namespace Worker

/-- The attempt at a test that the worker has in hand, by its number and its result, if it is one
that is looked for. -/
def attempt (pick : Stage → Option TestResult) (key : TestKey) (w : Worker W) :
    List (Nat × TestResult) :=
  match w.phase with
  | .busy item stage =>
    if item.key = key then (pick stage).toList.map fun r => (item.failures, r) else []
  | _ => []

/-- The attempt that is to come from the worker's hands. -/
def upcoming? (w : Worker W) : Option WorkItem :=
  match w.phase with
  | .busy item stage => stage.upcoming? item
  | _ => none

variable {w : Worker W} {pick : Stage → Option TestResult} {key : TestKey}

theorem attempt_eq_nil (idle : w.isBusy = false) : w.attempt pick key = [] := by
  unfold isBusy at idle
  unfold attempt
  cases phase : w.phase <;> simp_all

theorem upcoming?_eq_none (idle : w.isBusy = false) : w.upcoming? = none := by
  unfold isBusy at idle
  unfold upcoming?
  cases phase : w.phase <;> simp_all

theorem attempt_of_busy {item : WorkItem} {stage : Stage} (phase : w.phase = .busy item stage)
    (own : item.key = key) :
    w.attempt pick key = (pick stage).toList.map fun r => (item.failures, r) := by
  simp only [attempt, phase, own, if_true]

theorem attempt_eq_nil_of_ne {item : WorkItem} {stage : Stage} (phase : w.phase = .busy item stage)
    (other : item.key ≠ key) : w.attempt pick key = [] := by
  simp only [attempt, phase, other, if_false]

theorem attempt_eq_nil_of_stage {item : WorkItem} {stage : Stage}
    (phase : w.phase = .busy item stage) (none : pick stage = none) : w.attempt pick key = [] := by
  simp [attempt, phase, none]

/-- An attempt that is to come is one at the test of the item in hand. -/
theorem exists_open_of_upcoming {setting : Setting W} {pool : PoolContext} {t : WorkItem}
    (sound : w.Sound setting pool) (coming : w.upcoming? = some t) :
    ∃ item, w.open? = some item ∧ item.key = t.key := by
  unfold upcoming? at coming
  unfold open?
  unfold Sound at sound
  cases phase : w.phase with
  | busy item stage =>
    simp only [phase] at coming sound ⊢
    cases stage with
    | attempting => exact ⟨item, rfl, congrArg WorkItem.key (Option.some.inj coming)⟩
    | deciding r => exact ⟨item, rfl, congrArg WorkItem.key (Option.some.inj coming)⟩
    | offering next r =>
      obtain rfl : next = t := Option.some.inj coming
      exact ⟨item, rfl, by rw [sound.2, WorkItem.key_nextAttempt]⟩
    | _ => cases coming
  | _ => simp only [phase, reduceCtorEq] at coming

end Worker

/-! ## Steps of a worker -/

section Steps

variable [Hosted W] {setting : Setting W} {key : TestKey}

/-- How the numbers and the results go on when an attempt that is to come follows from one that was
to come at an earlier stage of an item. -/
structure Stage.Follows (item : WorkItem) (stage stage' : Stage) (t t' : WorkItem) : Prop where
  failures : t.failures ≤ t'.failures
  numbers : stage.made?.toList.map (fun _ => item.failures) =
    List.range' t.failures (t'.failures - t.failures)
  kept : stage.stashed?.toList ++ stage'.awaited?.toList =
    stage.awaited?.toList ++ stage.made?.toList

/-- After a step with an item the attempts that are to come were to come before, or follow from one
that was to come. -/
theorem StageChange.upcoming {ctx : AttemptContext} {s s' : Shared W} {stage stage' : Stage}
    (h : StageChange setting ctx s stage stage' s') (sound : stage.Sound setting ctx)
    {t' : WorkItem} (coming : t' ∈ s'.queue.items ∨ stage'.upcoming? ctx.item = some t') :
    t' ∈ s.queue.items ∨
      ∃ t, stage.upcoming? ctx.item = some t ∧ t.key = ctx.item.key ∧ t'.key = ctx.item.key ∧
        Stage.Follows ctx.item stage stage' t t' := by
  cases h with
  | attempted =>
    refine coming.imp_right fun same => ?_
    obtain rfl : ctx.item = t' := Option.some.inj same
    exact ⟨ctx.item, rfl, rfl, rfl, Nat.le_refl _, by simp [Stage.made?], rfl⟩
  | retried retry =>
    refine coming.imp_right fun same => ?_
    obtain ⟨-, -, rfl⟩ := WorkItem.retry?_eq_some_iff.1 retry
    obtain rfl := Option.some.inj same
    exact ⟨ctx.item, rfl, rfl, WorkItem.key_nextAttempt, by simp, by simp [Stage.made?], rfl⟩
  | @offered next r queue accepted =>
    obtain ⟨-, -, rfl⟩ := WorkQueue.offer_eq_ok_iff.1 accepted
    have queued := List.mem_append.1 (coming.resolve_right nofun)
    refine queued.imp_right fun offered => ?_
    obtain rfl : t' = next := List.mem_singleton.1 offered
    have own : t'.key = ctx.item.key := by rw [sound.2, WorkItem.key_nextAttempt]
    exact ⟨t', rfl, own, own, Nat.le_refl _, by simp [Stage.made?], rfl⟩
  | _ => exact .inl (coming.resolve_right nofun)

namespace Worker

variable {pool : PoolContext} {w w' : Worker W} {s s' : Shared W}

/-- What a worker keeps of a test other than the one in its hands, it had ready. -/
theorem Effect.attempt_of_other (h : Effect setting pool w s w' s')
    (other : ∀ item, w.open? = some item → item.key ≠ key) :
    w.attempt Stage.made? key = [] ∧
      w.attempt Stage.stashed? key ++ w'.attempt Stage.awaited? key =
        w.attempt Stage.awaited? key := by
  cases h with
  | none idle idle' =>
    rw [attempt_eq_nil idle, attempt_eq_nil idle, attempt_eq_nil idle, attempt_eq_nil idle']
    exact ⟨rfl, rfl⟩
  | take idle phase' =>
    rw [attempt_eq_nil idle, attempt_eq_nil idle, attempt_eq_nil idle,
      attempt_eq_nil_of_stage phase' rfl]
    exact ⟨rfl, rfl⟩
  | @work item stage stage' phase phase' change =>
    by_cases own : item.key = key
    · have closed : stage.isOpen = false := by
        by_contra is_open
        refine other item ?_ own
        simp only [open?, phase]
        exact if_pos (Bool.of_not_eq_false is_open)
      -- Of the stages that are not open only `stashing` goes on with the item.
      cases change with
      | stashed =>
        rw [attempt_eq_nil_of_stage phase rfl, attempt_eq_nil_of_stage phase' rfl,
          attempt_of_busy phase own, attempt_of_busy phase own]
        exact ⟨rfl, rfl⟩
      | _ => cases closed
    · rw [attempt_eq_nil_of_ne phase own, attempt_eq_nil_of_ne phase own,
        attempt_eq_nil_of_ne phase own, attempt_eq_nil_of_ne phase' own]
      exact ⟨rfl, rfl⟩
  | drop phase spent idle' =>
    obtain ⟨made, stashed, awaited⟩ := Stage.nothing_of_isSpent spent
    rw [attempt_eq_nil_of_stage phase made, attempt_eq_nil_of_stage phase stashed,
      attempt_eq_nil_of_stage phase awaited, attempt_eq_nil idle']
    exact ⟨rfl, rfl⟩

/-- How an attempt that is to come follows from one that was to come from the worker's hands: it is
the same, or the one that was to come has been made and the next follows. What is kept and what is
about to be make up for what is made. -/
structure Follows (w w' : Worker W) (t t' : WorkItem) : Prop where
  key : t.key = t'.key
  failures : t.failures ≤ t'.failures
  numbers : (w.attempt Stage.made? t'.key).map Prod.fst =
    List.range' t.failures (t'.failures - t.failures)
  kept : w.attempt Stage.stashed? t'.key ++ w'.attempt Stage.awaited? t'.key =
    w.attempt Stage.awaited? t'.key ++ w.attempt Stage.made? t'.key

/-- The attempts that are to come were to come before, or follow from one in the worker's hands. -/
theorem Effect.upcoming (h : Effect setting pool w s w' s') (sound : w.Sound setting pool)
    {t' : WorkItem} (coming : t' ∈ s'.queue.items ∨ w'.upcoming? = some t') :
    t' ∈ s.queue.items ∨ ∃ t, w.upcoming? = some t ∧ Follows w w' t t' := by
  cases h with
  | none idle idle' queue =>
    rw [queue, upcoming?_eq_none idle'] at coming
    exact .inl (coming.resolve_right nofun)
  | @take item idle phase' claimed =>
    refine .inl ((WorkQueue.perm_of_claim? claimed).mem_iff.2 (List.mem_cons.2 ?_))
    rcases coming with queued | taken
    · exact .inr queued
    · simp only [upcoming?, phase', Stage.upcoming?] at taken
      exact .inl (Option.some.inj taken).symm
  | @work item stage stage' phase phase' change =>
    simp only [Sound, phase] at sound
    simp only [upcoming?, phase'] at coming
    refine (change.upcoming sound coming).imp_right ?_
    rintro ⟨t, was_coming, before, after, follows⟩
    have own : item.key = t'.key := after.symm
    refine ⟨t, by simpa only [upcoming?, phase] using was_coming,
      ⟨before.trans own, follows.failures, ?_, ?_⟩⟩
    · rw [attempt_of_busy phase own, List.map_map]
      exact follows.numbers
    · rw [attempt_of_busy phase own, attempt_of_busy phase own, attempt_of_busy phase own,
        attempt_of_busy phase' own, ← List.map_append, ← List.map_append, follows.kept]
  | drop phase spent idle' items =>
    rw [items, upcoming?_eq_none idle'] at coming
    exact .inl (coming.resolve_right nofun)

/-- What a worker keeps goes to the superseded attempts of its test. -/
theorem Effect.retriedOf (h : Effect setting pool w s w' s') (sound : w.Sound setting pool)
    (key : TestKey) :
    s'.collector.retriedOf key =
      s.collector.retriedOf key ++ (w.attempt Stage.stashed? key).map Prod.snd := by
  have nothing (none : w.attempt Stage.stashed? key = [])
      (same : s'.collector.retriedOf key = s.collector.retriedOf key) :
      s'.collector.retriedOf key =
        s.collector.retriedOf key ++ (w.attempt Stage.stashed? key).map Prod.snd := by
    rw [none, same, List.map_nil, List.append_nil]
  cases h with
  | none idle _ _ collector | take idle _ _ collector =>
    exact nothing (attempt_eq_nil idle) (by rw [collector])
  | @work item stage stage' phase phase' change =>
    simp only [Sound, phase] at sound
    cases change with
    | @stashed r =>
      have of_item : r.test.key = item.key :=
        congrArg (fun i : ResultIdentity => i.test.key) sound
      by_cases own : item.key = key
      · rw [attempt_of_busy phase own]
        simp [Collector.retriedOf, Collector.pushRetried, Stage.stashed?, of_item, own]
      · rw [attempt_eq_nil_of_ne phase own]
        simp [Collector.retriedOf, Collector.pushRetried, of_item, own]
    | _ => exact nothing (attempt_eq_nil_of_stage phase rfl) rfl
  | drop phase spent _ _ collector =>
    obtain ⟨-, stashed, -⟩ := Stage.nothing_of_isSpent spent
    exact nothing (attempt_eq_nil_of_stage phase stashed) (by rw [collector])

end Worker

end Steps

/-! ## Attempts of the past -/

namespace RunState.Past

/-- The attempts at a test that workers had in hand when they moved, of those that are looked for. -/
def seen (pick : Stage → Option TestResult) (key : TestKey) (past : Past W) :
    List (Nat × TestResult) :=
  past.flatMap fun (p, m) =>
    match m with
    | .worker j => (p.workers[j]?.toList).flatMap (Worker.attempt pick key)
    | .own | .join _ => []

/-- The attempts at a test, by their numbers and their results, in the order in which they were
made. -/
def made (past : Past W) (key : TestKey) : List (Nat × TestResult) := past.seen Stage.made? key

/-- The superseded attempts at a test, in the order in which they were kept. -/
def kept (past : Past W) (key : TestKey) : List (Nat × TestResult) := past.seen Stage.stashed? key

variable {past : Past W} {p : PoolState W} {key : TestKey}

theorem seen_own {pick : Stage → Option TestResult} :
    seen pick key (past ++ [(p, .own)]) = past.seen pick key := by
  simp [seen]

@[simp]
theorem made_own : made (past ++ [(p, .own)]) key = past.made key := seen_own

@[simp]
theorem kept_own : kept (past ++ [(p, .own)]) key = past.kept key := seen_own

end RunState.Past

namespace PoolState

/-- The superseded attempts at a test that are not kept yet. -/
def awaited (p : PoolState W) (key : TestKey) : List (Nat × TestResult) :=
  p.workers.flatMap (Worker.attempt Stage.awaited? key)

/-- The attempts that are to come. -/
def upcoming (p : PoolState W) : List WorkItem :=
  p.queue.items ++ p.workers.filterMap Worker.upcoming?

/-- What is known of a test whose next attempt is to come: the attempts made are numbered without a
gap up to it, and all of them are kept or about to be. -/
structure Traced (past : Past W) (p : PoolState W) (t : WorkItem) : Prop where
  kept : (past.kept t.key ++ p.awaited t.key).Perm (past.made t.key)
  numbered : ∃ first ∈ p.plan.items, first.key = t.key ∧ first.failures ≤ t.failures ∧
    (past.made t.key).map Prod.fst =
      List.range' first.failures (t.failures - first.failures)

variable {past : Past W} {p p' : PoolState W}

theorem mem_upcoming {t : WorkItem} :
    t ∈ p.upcoming ↔ t ∈ p.queue.items ∨ ∃ w ∈ p.workers, w.upcoming? = some t := by
  simp [upcoming]

/-- Two upcoming attempts, one of which is elsewhere than in a worker's hands, are at different
tests. -/
theorem key_ne_of_elsewhere {setting : Setting W} {w : Worker W} {others : List (Worker W)}
    {t item : WorkItem} (sound : p.Sound setting) (apart : p.entries.Nodup)
    (split : p.workers.Perm (w :: others))
    (elsewhere : t ∈ p.queue.items ∨ ∃ v ∈ others, v.upcoming? = some t)
    (held : w.open? = some item) : item.key ≠ t.key := by
  have inHand : ((p.workers.filterMap Worker.open?).map WorkItem.key).Perm
      (item.key :: (others.filterMap Worker.open?).map WorkItem.key) := by
    have split := (split.filterMap Worker.open?).map WorkItem.key
    rwa [List.filterMap_cons_some held, List.map_cons] at split
  unfold PoolState.entries TestFleet.entries at apart
  have apart := (List.nodup_append.1 apart).1
  rcases elsewhere with queued | ⟨v, hv, coming⟩
  · have across := (List.nodup_append.1 apart).2.2
    intro same
    exact across t.key (List.mem_map_of_mem queued) item.key
      (inHand.mem_iff.2 List.mem_cons_self) same.symm
  · have within := inHand.nodup_iff.1 (List.nodup_append.1 apart).2.1
    obtain ⟨other, open_v, same⟩ := Worker.exists_open_of_upcoming
      (sound v (split.mem_iff.2 (List.mem_cons_of_mem _ hv))) coming
    intro alike
    refine (List.nodup_cons.1 within).1 ?_
    rw [alike, ← same]
    exact List.mem_map_of_mem (List.mem_filterMap.2 ⟨v, hv, open_v⟩)

variable [Hosted W] {setting : Setting W} {c c' : Common W} {m : PoolMove} {j : Nat}
  {w w' : Worker W}

/-- When a worker changes, what it had in hand is seen. If the pool takes note of its end that was
nothing. -/
theorem Change.seen {pick : Stage → Option TestResult} {key : TestKey}
    (h : Change setting p c m p' c') (moved : m.worker? = some j) (at_j : p.workers[j]? = some w) :
    Past.seen pick key (past ++ [(p, m)]) = past.seen pick key ++ w.attempt pick key := by
  cases m with
  | own => cases moved
  | worker i =>
    obtain rfl := Option.some.inj moved
    simp [Past.seen, at_j]
  | join i =>
    obtain rfl := Option.some.inj moved
    have idle : w.isBusy = false := by
      cases h with
      | join _ at_i stopped | joinFailed _ at_i stopped =>
        obtain rfl := Option.some.inj (at_j.symm.trans at_i)
        simp only [Worker.isBusy, stopped]
    rw [Worker.attempt_eq_nil idle]
    simp [Past.seen]

/-- Every upcoming attempt follows from an upcoming one. -/
theorem exists_follows {t' : WorkItem} (sound : p.Sound setting) (apart : p.entries.Nodup)
    (shifts : Shifts setting p c j w w' p' c') (coming : t' ∈ p'.upcoming) :
    ∃ t ∈ p.upcoming, Worker.Follows w w' t t' := by
  obtain ⟨others, before, after⟩ := shifts.exists_others
  -- What is elsewhere is at another test than what the worker holds, and so it is not touched.
  have same (elsewhere : t' ∈ p.queue.items ∨ ∃ v ∈ others, v.upcoming? = some t') :
      ∃ t ∈ p.upcoming, Worker.Follows w w' t t' := by
    have other (item : WorkItem) (held : w.open? = some item) : item.key ≠ t'.key :=
      key_ne_of_elsewhere sound apart before elsewhere held
    obtain ⟨none, kept⟩ := shifts.effect.attempt_of_other other
    refine ⟨t', mem_upcoming.2 (elsewhere.imp_right ?_), rfl, Nat.le_refl _, ?_, ?_⟩
    · rintro ⟨v, hv, coming⟩
      exact ⟨v, before.mem_iff.2 (List.mem_cons_of_mem _ hv), coming⟩
    · simp [none]
    · rw [kept, none, List.append_nil]
  have here (coming : t' ∈ p'.queue.items ∨ w'.upcoming? = some t') :
      ∃ t ∈ p.upcoming, Worker.Follows w w' t t' := by
    rcases shifts.effect.upcoming (sound w shifts.mem) coming with
      queued | ⟨t, coming, follows⟩
    · exact same (.inl queued)
    · exact ⟨t, mem_upcoming.2 (.inr ⟨w, shifts.mem, coming⟩), follows⟩
  rcases mem_upcoming.1 coming with queued | ⟨v, hv, upcoming⟩
  · exact here (.inl queued)
  · rcases List.mem_cons.1 (after.mem_iff.1 hv) with rfl | other
    · exact here (.inr upcoming)
    · exact same (.inr ⟨v, other, upcoming⟩)

/-- What is known of a test goes on with its attempts. -/
theorem Traced.follows {t t' : WorkItem} (traced : Traced past p t)
    (h : Change setting p c m p' c') (moved : m.worker? = some j)
    (shifts : Shifts setting p c j w w' p' c') (follows : Worker.Follows w w' t t') :
    Traced (past ++ [(p, m)]) p' t' := by
  obtain ⟨kept, first, planned, same, fewer, numbers⟩ := traced
  rw [follows.key] at kept numbers same
  have made_after :
      Past.made (past ++ [(p, m)]) t'.key = past.made t'.key ++ w.attempt Stage.made? t'.key :=
    h.seen moved shifts.at_j
  have kept_after :
      Past.kept (past ++ [(p, m)]) t'.key = past.kept t'.key ++ w.attempt Stage.stashed? t'.key :=
    h.seen moved shifts.at_j
  constructor
  · classical
    obtain ⟨others, before, after⟩ := shifts.exists_others
    have before := before.flatMap_right (Worker.attempt Stage.awaited? t'.key)
    have after := after.flatMap_right (Worker.attempt Stage.awaited? t'.key)
    refine List.perm_iff_count.2 fun a => ?_
    have tally := kept.count_eq a
    have tally_before := before.count_eq a
    have tally_after := after.count_eq a
    have tally_follows := congrArg (List.count a) follows.kept
    simp only [kept_after, made_after, awaited, List.flatMap_cons, List.count_append]
      at tally tally_before tally_after tally_follows ⊢
    omega
  · have further := follows.failures
    rw [h.plan]
    refine ⟨first, planned, same, Nat.le_trans fewer further, ?_⟩
    rw [made_after, List.map_append, numbers, follows.numbers]
    calc List.range' first.failures (t.failures - first.failures) ++
          List.range' t.failures (t'.failures - t.failures)
        = List.range' first.failures (t.failures - first.failures) ++
          List.range' (first.failures + (t.failures - first.failures))
            (t'.failures - t.failures) := by rw [Nat.add_sub_cancel' fewer]
      _ = List.range' first.failures
            ((t.failures - first.failures) + (t'.failures - t.failures)) := List.range'_append_1
      _ = List.range' first.failures (t'.failures - first.failures) := by
        congr 1
        omega

end PoolState

end TestFleet
