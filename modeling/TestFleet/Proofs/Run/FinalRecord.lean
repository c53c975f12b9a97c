import TestFleet.Proofs.Run.Telling
/-!
# The reporter sees the final record

A final result is told before it is kept, so what was told of a pool is what the pool keeps and what its
workers are about to keep (`PoolState.Telling`); when the workers have gone, each item that is left is
told and kept in one step (`PoolState.Settling`). An attempt that is made has a number of its own until
it is told or kept as superseded (`PoolState.Apart`). So of the attempts at a test each is told or stays
superseded and none of them both: the one that is taken back for an item that no device is left for is
not superseded any more (`RunState.Past.Settles`).
-/
namespace TestFleet

open RunState (Past History)
open WorkItem (Distinct)

variable {W : Type}

namespace Stage

/-- The final result that was told and is to be kept. -/
def recorded? : Stage → Option TestResult
  | .keeping r => some r
  | _ => none

/-- The result that is to be kept as superseded, or to be told, if that is settled. -/
def unsettled? : Stage → Option TestResult
  | .deciding r | .offering _ r | .stashing r | .announcing r _ => some r
  | _ => none

theorem untold_of_isSpent {stage : Stage} (spent : stage.isSpent = true) :
    stage.announced? = none ∧ stage.recorded? = none := by
  cases stage with
  | releasing fatal => exact ⟨rfl, rfl⟩
  | crashing m => exact ⟨rfl, rfl⟩
  | _ => cases spent

end Stage

section Steps

variable [Hosted W] {setting : Setting W}

/-! ## Steps of a worker -/

namespace Worker

variable {pool : PoolContext} {w w' : Worker W} {s s' : Shared W}

omit [Hosted W] in
/-- What a worker announces is an attempt at the test of its item. -/
theorem filter_announced (sound : w.Sound setting pool) (key : TestKey) :
    (w.picked Stage.announced?).filter (fun r => r.test.key == key) =
      (w.attempt Stage.announced? key).map Prod.snd := by
  unfold Sound at sound
  unfold picked attempt
  cases phase : w.phase with
  | busy item stage =>
    simp only [phase] at sound ⊢
    cases stage with
    | announcing r rescued =>
      have own : r.test.key = item.key := congrArg (fun i : ResultIdentity => i.test.key) sound
      by_cases same : item.key = key <;> simp [Stage.announced?, own, same]
    | _ => split <;> rfl
  | _ => rfl

/-- With what a step tells, what was recorded or about to be is what is so after it. -/
theorem Effect.recorded (h : Effect setting pool w s w' s') (quiet : setting.reporter.IsQuiet) :
    (w.picked Stage.announced? ++ (s.collector.results ++ w.picked Stage.recorded?)).Perm
      (s'.collector.results ++ w'.picked Stage.recorded?) := by
  cases h with
  | none idle idle' queue collector =>
    rw [picked_eq_nil idle, picked_eq_nil idle, picked_eq_nil idle', collector]
    exact .refl _
  | take idle phase' claimed collector =>
    rw [picked_eq_nil idle, picked_eq_nil idle, picked_of_busy phase', collector]
    exact .refl _
  | work phase phase' change =>
    rw [picked_of_busy phase, picked_of_busy phase, picked_of_busy phase']
    cases change with
    | announced =>
      simp only [Stage.announced?, Stage.recorded?, Option.toList_none, Option.toList_some,
        List.append_nil]
      exact List.perm_append_comm
    | interrupted told | crashed told => exact absurd (congrArg Prod.fst told) (quiet _ _ _)
    | kept => simp [Stage.announced?, Stage.recorded?, Collector.push]
    | _ => exact .refl _
  | @drop item stage phase spent idle' queue collector =>
    obtain ⟨unannounced, unrecorded⟩ := Stage.untold_of_isSpent spent
    rw [picked_of_busy phase, picked_of_busy phase, picked_eq_nil idle', collector, unannounced,
      unrecorded]
    exact .refl _

/-- An attempt is numbered when it is made, and then its number goes on until the attempt is kept as
superseded or told. -/
theorem Effect.unsettled (h : Effect setting pool w s w' s') (quiet : setting.reporter.IsQuiet)
    (key : TestKey) (n : Nat) :
    ((w.attempt Stage.stashed? key).map Prod.fst).count n +
        ((w.attempt Stage.announced? key).map Prod.fst).count n +
        ((w'.attempt Stage.unsettled? key).map Prod.fst).count n ≤
      ((w.attempt Stage.unsettled? key).map Prod.fst).count n +
        ((w.attempting.filter fun x => x.key == key).map (·.failures)).count n := by
  cases h with
  | none idle idle' =>
    rw [attempt_eq_nil idle, attempt_eq_nil idle, attempt_eq_nil idle']
    exact Nat.zero_le _
  | take idle phase' =>
    rw [attempt_eq_nil idle, attempt_eq_nil idle, attempt_eq_nil_of_stage phase' rfl]
    exact Nat.zero_le _
  | @work item stage stage' phase phase' change =>
    by_cases own : item.key = key
    · rw [attempt_of_busy phase own, attempt_of_busy phase own, attempt_of_busy phase own,
        attempt_of_busy phase' own]
      cases change with
      | interrupted told => exact absurd (congrArg Prod.fst told) (quiet _ _ _)
      | _ => simp [attempting, phase, own, Stage.stashed?, Stage.announced?, Stage.unsettled?]
    · rw [attempt_eq_nil_of_ne phase own, attempt_eq_nil_of_ne phase own,
        attempt_eq_nil_of_ne phase' own]
      exact Nat.zero_le _
  | @drop item stage phase spent idle' =>
    rw [attempt_eq_nil_of_stage phase (Stage.nothing_of_isSpent spent).2.1,
      attempt_eq_nil_of_stage phase (Stage.untold_of_isSpent spent).1, attempt_eq_nil idle']
    exact Nat.zero_le _

end Worker

/-! ## Attempts that are told -/

/-- When a worker changes, what it announced is told. If the pool takes note of its end that was nothing. -/
theorem PoolState.Change.telling {p p' : PoolState W} {c c' : Common W} {m : PoolMove} {j : Nat}
    {w : Worker W} (h : Change setting p c m p' c') (moved : m.worker? = some j)
    (at_j : p.workers[j]? = some w) : p.telling c m = w.picked Stage.announced? := by
  rw [← h.shown Worker.picked_eq_nil moved at_j]
  cases m with
  | own => cases moved
  | worker | join => rfl


namespace RunState.Past

/-- The attempts at a test that workers told the reporter, by their numbers and their results. -/
def announced (past : Past W) (key : TestKey) : List (Nat × TestResult) := past.seen Stage.announced? key

omit [Hosted W] in
@[simp]
theorem announced_own {past : Past W} {p : PoolState W} {key : TestKey} :
    announced (past ++ [(p, .own)]) key = past.announced key := seen_own

/-- How the result of a test came to be told and recorded, and what became of the superseded attempts at
the test. -/
inductive Settles (past : Past W) (collector : Collector) (key : TestKey) (r : TestResult) : Prop where
  /-- A worker told an attempt, and all that were superseded stay so. -/
  | recorded {k : Nat} (told : past.announced key = [(k, r)])
    (stay : collector.retriedOf key = (past.kept key).map Prod.snd)
  /-- No worker told any. The superseded attempt that was kept last was taken back, and the others
  stay superseded. -/
  | reclaimed {rest : List (Nat × TestResult)} {k : Nat} (untold : past.announced key = [])
    (kept : past.kept key = rest ++ [(k, r)]) (stay : collector.retriedOf key = rest.map Prod.snd)
  /-- No worker told any, and none was superseded. -/
  | unreachable (untold : past.announced key = []) (unkept : past.kept key = [])
    (none : collector.retriedOf key = [])

variable {past : Past W} {p : PoolState W} {collector collector' : Collector} {key : TestKey}
  {r : TestResult}

omit [Hosted W] in
theorem Settles.own (settles : Settles past collector key r)
    (same : collector'.retriedOf key = collector.retriedOf key) :
    Settles (past ++ [(p, .own)]) collector' key r := by
  cases settles with
  | recorded told stay =>
    exact .recorded (announced_own.trans told) (by rw [same, stay, kept_own])
  | reclaimed untold kept stay =>
    exact .reclaimed (announced_own.trans untold) (kept_own.trans kept) (same.trans stay)
  | unreachable untold unkept none =>
    exact .unreachable (announced_own.trans untold) (kept_own.trans unkept) (same.trans none)

end RunState.Past

namespace PoolState

open RunState.Past (Settles)

variable {past : Past W} {told : List TestResult} {p p' : PoolState W} {c c' : Common W} {m : PoolMove}

/-- The numbers of the attempts at a test that were told or kept as superseded, and those of the attempts
of which neither is settled yet, are numbers of different attempts that were made. -/
def Apart (key : TestKey) (past : Past W) (p : PoolState W) : Prop :=
  ∀ n, ((past.kept key).map Prod.fst).count n + ((past.announced key).map Prod.fst).count n +
      ((p.workers.flatMap (Worker.attempt Stage.unsettled? key)).map Prod.fst).count n ≤
    (past.numbers key).count n

omit [Hosted W] in
theorem apart_ofPlan {key : TestKey} (plan : PoolPlan) : Apart key [] (ofPlan (W := W) plan) := by
  have idle : (ofPlan (W := W) plan).workers.flatMap (Worker.attempt Stage.unsettled? key) = [] :=
    List.flatMap_eq_nil_iff.2 fun w hw => Worker.attempt_eq_nil (isBusy_of_mem_ofPlan hw)
  intro n
  rw [idle]
  exact Nat.le_refl 0

theorem Change.apart {key : TestKey} (h : Change setting p c m p' c') (quiet : setting.reporter.IsQuiet)
    (apart : Apart key past p) : Apart key (past ++ [(p, m)]) p' := by
  intro n
  have earlier := apart n
  rw [Past.numbers_append]
  rcases h.own_or_shifts with rfl | ⟨j, w, w', moved, shifts⟩
  · rw [h.goesOn.workers, Past.kept_own, Past.announced_own, List.count_append]
    exact Nat.le_trans earlier (Nat.le_add_right _ _)
  · obtain ⟨others, before, after⟩ := shifts.exists_others
    have before := ((before.flatMap_right (Worker.attempt Stage.unsettled? key)).map Prod.fst).count_eq n
    have after := ((after.flatMap_right (Worker.attempt Stage.unsettled? key)).map Prod.fst).count_eq n
    have kept : Past.kept (past ++ [(p, m)]) key = past.kept key ++ w.attempt Stage.stashed? key :=
      h.seen moved shifts.at_j
    have announced : Past.announced (past ++ [(p, m)]) key =
        past.announced key ++ w.attempt Stage.announced? key := h.seen moved shifts.at_j
    have step := shifts.effect.unsettled quiet key n
    rw [h.shown Worker.attempting_eq_nil moved shifts.at_j, kept, announced]
    simp only [List.flatMap_cons, List.map_append, List.count_append] at before after earlier ⊢
    omega

/-! ## Before the queue is drained -/

/-- While workers are at work, what was told is what is recorded and what workers are about to record. Of
each test it is the attempts that workers announced. -/
structure Telling (past : Past W) (told : List TestResult) (p : PoolState W) : Prop where
  recorded : told.Perm (p.collector.results ++ p.workers.flatMap (Worker.picked Stage.recorded?))
  announced : ∀ key, told.filter (fun r => r.test.key == key) = (past.announced key).map Prod.snd

omit [Hosted W] in
theorem telling_ofPlan (plan : PoolPlan) : Telling [] [] (ofPlan (W := W) plan) where
  recorded := by
    have idle : (ofPlan (W := W) plan).workers.flatMap (Worker.picked Stage.recorded?) = [] :=
      List.flatMap_eq_nil_iff.2 fun w hw => Worker.picked_eq_nil (isBusy_of_mem_ofPlan hw)
    rw [idle]
    exact .refl _
  announced _ := rfl

theorem Telling.shifts {j : Nat} {w w' : Worker W} (telling : Telling past told p)
    (h : Change setting p c m p' c') (moved : m.worker? = some j)
    (shifts : Shifts setting p c j w w' p' c') (quiet : setting.reporter.IsQuiet)
    (sound : p.Sound setting) : Telling (past ++ [(p, m)]) (told ++ p.telling c m) p' := by
  have tells : p.telling c m = w.picked Stage.announced? := h.telling moved shifts.at_j
  rw [tells]
  constructor
  · classical
    obtain ⟨others, before, after⟩ := shifts.exists_others
    have before := before.flatMap_right (Worker.picked Stage.recorded?)
    have after := after.flatMap_right (Worker.picked Stage.recorded?)
    have step := shifts.effect.recorded quiet
    refine List.perm_iff_count.2 fun r => ?_
    have tally := telling.recorded.count_eq r
    have tally_before := before.count_eq r
    have tally_after := after.count_eq r
    have tally_step := step.count_eq r
    simp only [shared, List.flatMap_cons, List.count_append] at tally tally_before tally_after tally_step ⊢
    omega
  · intro key
    have announced : Past.announced (past ++ [(p, m)]) key =
        past.announced key ++ w.attempt Stage.announced? key := h.seen moved shifts.at_j
    rw [List.filter_append, telling.announced, announced, List.map_append,
      Worker.filter_announced (sound w shifts.mem)]

omit [Hosted W] in
/-- A step of the pool that leaves its work as it is. -/
theorem Telling.own (telling : Telling past told p) (workers : p'.workers = p.workers)
    (collector : p'.collector = p.collector) : Telling (past ++ [(p, .own)]) told p' where
  recorded := by
    rw [workers, collector]
    exact telling.recorded
  announced key := by rw [telling.announced, Past.announced_own]

/-! ## After the queue was drained -/

/-- What was told while a pool accounts for what is left: nothing of what is left, and all that has its
result. Of tests that are not planned nothing was taken back. -/
structure Settling (past : Past W) (told : List TestResult) (p : PoolState W) (left : List WorkItem) :
    Prop where
  recorded : told.Perm p.collector.results
  untold : ∀ item ∈ left, past.announced item.key = []
  settled : ∀ item ∈ p.plan.items, (∀ x ∈ left, x.key ≠ item.key) →
    ∃ r, p.collector.results.filter (fun r => r.test.key == item.key) = [r] ∧
      Settles past p.collector item.key r
  others : ∀ key ∉ p.planned, p.collector.retriedOf key = (past.kept key).map Prod.snd

omit [Hosted W] in
/-- A planned test that is not among those that are left has one result. -/
theorem exists_result {left : List WorkItem} {results : List TestResult} {item : WorkItem}
    (distinct : Distinct p.plan.items)
    (fits : p.planned.Perm (left.map WorkItem.key ++ results.map fun r => r.test.key))
    (hitem : item ∈ p.plan.items) (elsewhere : ∀ x ∈ left, x.key ≠ item.key) :
    ∃ r, results.filter (fun r => r.test.key == item.key) = [r] := by
  have once : p.planned.count item.key = 1 :=
    List.count_eq_one_of_mem distinct (List.mem_map_of_mem hitem)
  have none : (left.map WorkItem.key).count item.key = 0 := by
    refine List.count_eq_zero.2 fun queued => ?_
    obtain ⟨x, hx, same⟩ := List.mem_map.1 queued
    exact elsewhere x hx same
  rw [fits.count_eq, List.count_append, none, Nat.zero_add, List.count_eq_countP, List.countP_map,
    List.countP_eq_length_filter] at once
  exact List.length_eq_one_iff.1 once

omit [Hosted W] in
/-- When the workers have gone all that was told is recorded. -/
theorem Telling.perm_of_gone (telling : Telling past told p) (gone : ∀ w ∈ p.workers, w.isGone = true) :
    told.Perm p.collector.results := by
  have idle : p.workers.flatMap (Worker.picked Stage.recorded?) = [] :=
    List.flatMap_eq_nil_iff.2 fun w hw => Worker.picked_eq_nil (Worker.isBusy_of_isGone (gone w hw))
  have recorded := telling.recorded
  rwa [idle, List.append_nil] at recorded

omit [Hosted W] in
/-- When the queue is drained nothing was told of what is left, and workers have told all else. -/
theorem Telling.drain (telling : Telling past told p) (gone : ∀ w ∈ p.workers, w.isGone = true)
    (retried : ∀ key, p.collector.retriedOf key = (past.kept key).map Prod.snd)
    (distinct : Distinct p.plan.items)
    (fits : p.planned.Perm
      (p.queue.items.map WorkItem.key ++ p.collector.results.map fun r => r.test.key))
    (plan : p'.plan = p.plan) (collector : p'.collector = p.collector) :
    Settling (past ++ [(p, .own)]) told p' p.queue.items := by
  have recorded := telling.perm_of_gone gone
  have announced (key : TestKey) : ((past.announced key).map Prod.snd).Perm
      (p.collector.results.filter fun r => r.test.key == key) := by
    rw [← telling.announced]
    exact recorded.filter _
  constructor
  case recorded => rwa [collector]
  case untold =>
    intro item hitem
    have apart := (List.nodup_append.1 (fits.nodup_iff.1 distinct)).2.2
    have none : p.collector.results.filter (fun r => r.test.key == item.key) = [] := by
      refine List.filter_eq_nil_iff.2 fun r hr same => ?_
      exact apart item.key (List.mem_map_of_mem hitem) r.test.key (List.mem_map_of_mem hr)
        (eq_of_beq same).symm
    have untold := announced item.key
    rw [none, List.perm_nil, List.map_eq_nil_iff] at untold
    rw [Past.announced_own, untold]
  case settled =>
    rw [plan, collector]
    intro item hitem elsewhere
    obtain ⟨r, result⟩ := exists_result distinct fits hitem elsewhere
    have told := announced item.key
    rw [result, List.perm_singleton, List.map_eq_singleton_iff] at told
    obtain ⟨⟨k, r⟩, told, rfl⟩ := told
    refine ⟨r, result, .recorded (Past.announced_own.trans told) ?_⟩
    rw [retried, Past.kept_own]
  case others =>
    intro key _
    rw [collector, retried, Past.kept_own]

section Settled

variable {item : WorkItem} {left : List WorkItem} {now : Time.Moment} {r : TestResult}
  {collector : Collector} {isUnreachable : Bool}

omit [Hosted W] in
/-- An item that waits is settled by the attempt of its test that was kept last, or is unreachable. -/
theorem Waits.settles (waits : Waits past p.collector item) (told : Told past p.plan item)
    (untold : past.announced item.key = [])
    (settled : p.settleLeft item now = (r, collector, isUnreachable)) :
    Settles (past ++ [(p, .own)]) (collector.push r) item.key r := by
  rcases settleLeft_eq settled with ⟨-, -, reclaimed⟩ | ⟨-, none, rfl, rfl⟩
  · obtain ⟨split, -⟩ := Collector.reclaim?_eq_some reclaimed
    obtain ⟨rest, last, kept, others, same⟩ := List.map_eq_append_iff.1 (waits.retried.symm.trans split)
    obtain ⟨⟨k, r⟩, rfl, rfl⟩ := List.map_eq_singleton_iff.1 same
    exact .reclaimed (Past.announced_own.trans untold) (Past.kept_own.trans kept) others.symm
  · have unkept : past.kept item.key = [] := by
      rcases none with fresh | none
      · exact told.kept_eq_nil fresh
      · rw [Collector.reclaim?_eq_none_iff, waits.retried, List.map_eq_nil_iff] at none
        exact none
    refine .unreachable (Past.announced_own.trans untold) (Past.kept_own.trans unkept) ?_
    exact waits.retried.trans (by rw [unkept, List.map_nil])

omit [Hosted W] in
/-- The item at the head of what is left is told and recorded. -/
theorem Settling.step (settling : Settling past told p (item :: left))
    (waits : Waits past p.collector item) (done : Told past p.plan item)
    (planned : item.key ∈ p.planned) (plan : p'.plan = p.plan)
    (settled : p.settleLeft item now = (r, collector, isUnreachable))
    (kept : p'.collector = collector.push r) :
    Settling (past ++ [(p, .own)]) (told ++ [r]) p' left := by
  obtain ⟨key, results⟩ := key_of_settleLeft settled
  have untold := settling.untold item List.mem_cons_self
  constructor
  case recorded =>
    rw [kept, Collector.push, results]
    exact settling.recorded.append_right _
  case untold =>
    intro x hx
    rw [Past.announced_own, settling.untold x (List.mem_cons_of_mem _ hx)]
  case settled =>
    rw [plan, kept]
    intro x hx elsewhere
    by_cases own : item.key = x.key
    · refine ⟨r, ?_, own ▸ waits.settles done untold settled⟩
      rw [← own, Collector.push, results, List.filter_append, waits.results]
      simp [key]
    · obtain ⟨same, stay⟩ := settleLeft_other own settled
      obtain ⟨r', result, settles⟩ := settling.settled x hx (List.forall_mem_cons.2 ⟨own, elsewhere⟩)
      exact ⟨r', same.trans result, settles.own stay⟩
  case others =>
    unfold PoolState.planned
    rw [plan, kept]
    intro other unplanned
    have apart : item.key ≠ other := fun same => unplanned (same ▸ planned)
    rw [(settleLeft_other apart settled).2, settling.others other unplanned, Past.kept_own]

end Settled

/-! ## Steps of a pool -/

/-- What the reporter was told of a pool, in the way of the phase that the pool is in. -/
def Heard (past : Past W) (told : List TestResult) (p : PoolState W) : Prop :=
  match p.phase with
  | .planned | .refused _ | .working => Telling past told p
  | .accounting left _ => Settling past told p left
  | .closing result => told.Perm result.results ∧
    (∀ item ∈ p.plan.items, ∃ r, result.results.filter (fun r => r.test.key == item.key) = [r] ∧
      Settles past ⟨result.results, result.retried⟩ item.key r) ∧
    ∀ key ∉ p.planned, result.retried.filter (fun r => r.test.key == key) =
      (past.kept key).map Prod.snd
  | .aborting .. | .finished _ | .lost _ => True

theorem Change.heard (h : Change setting p c m p' c') (quiet : setting.reporter.IsQuiet)
    (distinct : Distinct p.plan.items) (recorded : Recorded setting past p)
    (accounted : p.Accounted setting c.cancelled) (heard : Heard past told p) :
    Heard (past ++ [(p, m)]) (told ++ p.telling c m) p' := by
  unfold Heard at heard ⊢
  have known := recorded.known
  rcases h.own_or_shifts with rfl | ⟨j, w, w', moved, shifts⟩
  · cases h.turn with
    | begin phase underway =>
      simp only [phase] at heard
      have untold : p.telling c .own = [] := by simp only [PoolState.telling, phase]
      rw [untold, List.append_nil]
      rcases underway with rfl | ⟨e, rfl⟩ <;> exact heard.own rfl rfl
    | out goesOn out => cases phase : p'.phase <;> simp_all [PoolPhase.isOut]
    | drain phase gone called =>
      simp only [phase] at heard known
      have untold : p.telling c .own = [] := by simp only [PoolState.telling, phase]
      rw [untold, List.append_nil]
      exact heard.drain gone known.retried distinct (h.accounted quiet accounted).fits rfl rfl
    | @account item left unreachable count r collector isUnreachable phase settled =>
      simp only [phase] at heard known
      obtain ⟨done, known⟩ := known
      have tells : p.telling c .own = [r] := by simp only [PoolState.telling, phase, settled]
      have waiting := known.drained ▸ List.mem_append_right done List.mem_cons_self
      have fits := accounted.fits
      simp only [phase] at fits
      have planned := fits.mem_iff.2 (List.mem_append_left _ (List.mem_map_of_mem List.mem_cons_self))
      rw [tells]
      exact heard.step (known.waits item List.mem_cons_self) (known.told item waiting) planned rfl
        settled rfl
    | conclude phase =>
      simp only [phase] at heard
      have untold : p.telling c .own = [] := by simp only [PoolState.telling, phase]
      rw [untold, List.append_nil]
      refine ⟨heard.recorded, fun item hitem => ?_, fun key unplanned => ?_⟩
      · obtain ⟨r, result, settles⟩ := heard.settled item hitem fun x none => (List.not_mem_nil none).elim
        exact ⟨r, result, settles.own rfl⟩
      · rw [Past.kept_own]
        exact heard.others key unplanned
  · simp only [shifts.phase, shifts.phase'] at heard ⊢
    exact heard.shifts h moved shifts quiet recorded.sound

end PoolState

/-! ## Runs -/

namespace RunState

variable {world : W} {quota i : Nat} {plans : List PoolPlan} {plan : PoolPlan} {history : History W}
  {s : RunState W} {p : PoolState W}

/-- What the reporter was told of a pool of a run fits what the pool has recorded. -/
theorem Trace.heard (trace : Trace setting (ofPlans world quota plans) history s)
    (planned : plans[i]? = some plan) (quiet : setting.reporter.IsQuiet) (distinct : Distinct plan.items)
    (at_i : s.pools[i]? = some p) :
    p.plan = plan ∧ PoolState.Heard (history.ofPool i) (history.told i) p := by
  have known := trace.induct_ofPlans_logged (fun p c m => ((p, m), p.telling c m))
    (fun log p off => p.plan = plan ∧ PoolState.Recorded setting (log.map Prod.fst) p ∧
      p.Accounted setting off ∧ PoolState.Heard (log.map Prod.fst) (log.map Prod.snd).flatten p)
    (fun plan' planned' => by
      obtain rfl := Option.some.inj (planned.symm.trans planned')
      refine ⟨rfl, ⟨PoolState.sound_ofPlan setting plan, PoolState.underway_ofPlan plan⟩,
        ⟨PoolState.sound_ofPlan setting plan, .inl ?_⟩, PoolState.telling_ofPlan plan⟩
      rw [PoolState.entries_ofPlan, WorkQueue.firsts_of_distinct distinct]
      exact .refl _)
    (fun _ _ known => ⟨known.1, known.2.1, known.2.2.1.calledOff, known.2.2.2⟩)
    (fun log p c m p' c' known change => by
      obtain ⟨rfl, recorded, accounted, heard⟩ := known
      rw [List.map_append, List.map_append, List.flatten_append]
      refine ⟨change.plan, change.recorded recorded, change.accounted quiet accounted, ?_⟩
      simpa using change.heard quiet distinct recorded accounted heard) at_i
  obtain ⟨-, same, -, -, heard⟩ := known
  rw [History.map_logged, History.map_logged] at heard
  exact ⟨same, heard⟩

theorem Trace.settled_apart (trace : Trace setting (ofPlans world quota plans) history s)
    (quiet : setting.reporter.IsQuiet) (at_i : s.pools[i]? = some p) (key : TestKey) :
    PoolState.Apart key (history.ofPool i) p :=
  (trace.induct_ofPlans (fun past p _ => PoolState.Apart key past p)
    (fun plan _ => PoolState.apart_ofPlan plan) (fun _ _ apart => apart)
    (fun _ _ _ _ _ _ apart change => change.apart quiet apart) at_i).2

/-- No attempt is told twice, or told and kept as superseded. -/
theorem Trace.nodup_settled {item : WorkItem}
    (trace : Trace setting (ofPlans world quota plans) history s) (planned : plans[i]? = some plan)
    (quiet : setting.reporter.IsQuiet) (at_i : s.pools[i]? = some p)
    (hitem : item ∈ WorkQueue.firsts plan.items) :
    ((Past.announced (history.ofPool i) item.key ++ Past.kept (history.ofPool i) item.key).map
      Prod.fst).Nodup := by
  obtain ⟨n, numbers, -⟩ := trace.numbers_eq planned hitem
  refine List.nodup_iff_count_le_one.2 fun k => ?_
  have once := List.nodup_iff_count_le_one.1 (numbers ▸ List.nodup_range') k
  have fewer := trace.settled_apart quiet at_i item.key k
  rw [List.map_append, List.count_append]
  omega

/-- No attempt at a test that is not planned is kept. -/
theorem Trace.kept_eq_nil {key : TestKey}
    (trace : Trace setting (ofPlans world quota plans) history s) (planned : plans[i]? = some plan)
    (quiet : setting.reporter.IsQuiet) (at_i : s.pools[i]? = some p)
    (unplanned : key ∉ plan.items.map WorkItem.key) : Past.kept (history.ofPool i) key = [] := by
  have inherited : WorkItem.Inherited setting.retry plan.pool fun x => x.key ∈ plan.items.map WorkItem.key := by
    intro x failed _ known
    rwa [WorkItem.key_nextAttempt]
  have known := (trace.inherits planned inherited (fun x hx =>
    List.mem_map_of_mem ((WorkQueue.firsts_sublist plan.items).subset hx)) at_i).1
  have numbers : Past.numbers (history.ofPool i) key = [] := by
    refine List.map_eq_nil_iff.2 (List.filter_eq_nil_iff.2 fun x hx own => ?_)
    exact unplanned (eq_of_beq own ▸ known x hx)
  have none : (Past.kept (history.ofPool i) key).map Prod.fst = [] := by
    refine List.eq_nil_iff_forall_not_mem.2 fun k hk => ?_
    have some := List.count_pos_iff.2 hk
    have fewer := trace.settled_apart quiet at_i key k
    rw [numbers, List.count_nil] at fewer
    omega
  exact List.map_eq_nil_iff.1 none

end RunState

/-- **The reporter sees exactly the final record.** When a pool concludes, whatever its backends, rules
and devices do and whoever moves when, a reporter that never panics was told the final results of the
pool, each as often as it is among them: that is one for every planned test. It is an attempt that a
worker told, or the superseded attempt that was taken back, or no attempt at all. What stays superseded
is of planned tests, and no number of an attempt comes twice among those that workers told and those that
were superseded: so what stays superseded was not told, and what was taken back was told only then. What
was told of the pool is what the moves in the pool told, and each move of the run passes the reporter what
it tells and nothing else. -/
theorem reporter_sees_final_record {world : W} {quota i : Nat} {plans : List PoolPlan} {plan : PoolPlan}
    {history : History W} {s : RunState W} {result : PoolResult} (quiet : setting.reporter.IsQuiet)
    (planned : plans[i]? = some plan) (distinct : Distinct plan.items)
    (trace : RunState.Trace setting (.ofPlans world quota plans) history s)
    (concluded : s.conclusion? i = some result) :
    (history.told i).Perm result.results ∧
      (∀ item ∈ plan.items, ∃ r,
        (history.told i).filter (fun r => r.test.key == item.key) = [r] ∧
        Past.Settles (history.ofPool i) ⟨result.results, result.retried⟩ item.key r ∧
        ((Past.announced (history.ofPool i) item.key ++ Past.kept (history.ofPool i) item.key).map
          Prod.fst).Nodup) ∧
      (∀ r ∈ result.retried, ∃ item ∈ plan.items, item.key = r.test.key) ∧
      history.told i =
        (history.filter fun (_, move) => move.place == i).flatMap (fun (u, move) => u.telling move) ∧
      ∀ u move, (u, move) ∈ history → u.Passes setting move := by
  obtain ⟨p, at_i, closing⟩ := RunState.conclusion?_eq_some_iff.1 concluded
  obtain ⟨rfl, heard⟩ := trace.heard planned quiet distinct at_i
  unfold PoolState.Heard at heard
  simp only [closing] at heard
  obtain ⟨told, settled, others⟩ := heard
  refine ⟨told, fun item hitem => ?_, fun r hr => ?_, history.told_eq i, fun _ _ => trace.passes⟩
  · obtain ⟨r, once, settles⟩ := settled item hitem
    have toldOnce := told.filter fun r => r.test.key == item.key
    rw [once, List.perm_singleton] at toldOnce
    refine ⟨r, toldOnce, settles, trace.nodup_settled planned quiet at_i ?_⟩
    rwa [WorkQueue.firsts_of_distinct distinct]
  · refine List.mem_map.1 (Decidable.byContradiction fun unplanned => ?_)
    have none := others r.test.key unplanned
    rw [trace.kept_eq_nil planned quiet at_i unplanned, List.map_nil, List.filter_eq_nil_iff] at none
    exact none r hr (beq_self_eq_true _)

end Steps

namespace Sample

/-- What the run with the overtaking retry comes to: no worker tells anything, and the attempt of number 0
is kept last. -/
def isTakenBack (run : RunState.History Host × RunState Host) : Bool :=
  (run.2.conclusion? 0).isSome && (Past.announced (run.1.ofPool 0) item.key).isEmpty &&
    (Past.kept (run.1.ofPool 0) item.key).map Prod.fst == [1, 0]

theorem exists_taken_back : ∃ history s result,
    RunState.Trace setting start history s ∧ s.conclusion? 0 = some result ∧
      Past.announced (history.ofPool 0) item.key = [] ∧
      (Past.kept (history.ofPool 0) item.key).map Prod.fst = [1, 0] := by
  obtain ⟨history, s, trace, passes⟩ := RunState.exists_trace_of_follow setting start
    (opening ++ overtaking ++ ending) isTakenBack (by decide +kernel)
  simp only [isTakenBack, Bool.and_eq_true, beq_iff_eq, List.isEmpty_iff] at passes
  obtain ⟨⟨ends, untold⟩, kept⟩ := passes
  obtain ⟨result, concluded⟩ := Option.isSome_iff_exists.1 ends
  exact ⟨history, s, result, trace, concluded, untold, kept⟩

end Sample

/-- The attempt of number 0 is told, when it is taken back, and nothing else; that of number 1 stays
superseded. -/
theorem told_of_sample : ∃ history s result r r',
    RunState.Trace Sample.setting Sample.start history s ∧ s.conclusion? 0 = some result ∧
      (history.told 0).Perm result.results ∧
      (history.told 0).filter (fun r => r.test.key == Sample.item.key) = [r] ∧
      Past.kept (history.ofPool 0) Sample.item.key = [(1, r'), (0, r)] ∧
      result.retried.filter (fun r => r.test.key == Sample.item.key) = [r'] := by
  obtain ⟨history, s, result, trace, concluded, untold, kept⟩ := Sample.exists_taken_back
  have distinct : Distinct Sample.plan.items := by decide
  obtain ⟨told, all, -⟩ := reporter_sees_final_record Reporter.isQuiet_silent rfl distinct trace concluded
  obtain ⟨r, once, settles, -⟩ := all Sample.item List.mem_cons_self
  cases settles with
  | recorded told => exact absurd (untold.symm.trans told) nofun
  | unreachable _ none => simp [none] at kept
  | @reclaimed rest k _ split stay =>
    rw [split, List.map_append] at kept
    have kept : rest.map Prod.fst ++ [k] = [1] ++ [0] := kept
    obtain ⟨numbers, number⟩ := List.append_inj' kept rfl
    obtain ⟨⟨n, r'⟩, rfl, rfl⟩ := List.map_eq_singleton_iff.1 numbers
    obtain rfl := List.singleton_inj.1 number
    exact ⟨history, s, result, r, r', trace, concluded, told, once, split, stay⟩

end TestFleet
