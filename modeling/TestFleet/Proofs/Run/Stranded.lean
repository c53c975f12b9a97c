import TestFleet.Proofs.Run.Attempts
/-!
# Items that no device is left for

When its workers have gone a pool drains its queue. An item that waits there for a retry gets the
superseded attempt of its test that was kept last; the others stay superseded
(`PoolState.Recorded`). That is the attempt that asked for the retry only if attempts are kept in
the order in which they were made, and they need not be: the next attempt is offered before the one
that asked for it is kept, so that another worker can make the next and keep it first.
-/
namespace TestFleet

open RunState (Past)
open WorkItem (Distinct)

variable {W : Type}

/-- The items that a pool takes out of its queue with a move. -/
def PoolState.drains (p : PoolState W) (m : PoolMove) : List WorkItem :=
  match m, p.phase with
  | .own, .working => p.queue.items
  | _, _ => []

theorem PoolState.drains_of_phase {p : PoolState W} {m : PoolMove} (phase : p.phase ≠ .working) :
    p.drains m = [] := by
  unfold drains
  cases m with
  | own => cases at_p : p.phase <;> simp_all
  | _ => rfl

theorem PoolState.drains_of_worker {p : PoolState W} {m : PoolMove} {j : Nat}
    (moved : m.worker? = some j) : p.drains m = [] := by
  cases m with
  | own => cases moved
  | _ => rfl

/-- The items that waited when the pool drained its queue. -/
def RunState.Past.drained (past : Past W) : List WorkItem :=
  past.flatMap fun (p, m) => p.drains m

theorem drained_append {past : Past W} {p : PoolState W} {m : PoolMove} :
    RunState.Past.drained (past ++ [(p, m)]) = past.drained ++ p.drains m := by
  simp [RunState.Past.drained]

namespace PoolState

/-- What is known of a test when nothing of it is in hand any more. -/
structure Told (past : Past W) (plan : PoolPlan) (item : WorkItem) : Prop where
  kept : (past.kept item.key).Perm (past.made item.key)
  numbered : ∃ first ∈ plan.items, first.key = item.key ∧ first.failures ≤ item.failures ∧
    (past.made item.key).map Prod.fst =
      List.range' first.failures (item.failures - first.failures)

theorem Told.own {past : Past W} {p : PoolState W} {plan : PoolPlan} {item : WorkItem}
    (told : Told past plan item) : Told (past ++ [(p, .own)]) plan item :=
  ⟨by simpa using told.kept, by simpa using told.numbered⟩

/-- Of an item that does not wait for a retry no attempt was kept. -/
theorem Told.kept_eq_nil {past : Past W} {plan : PoolPlan} {item : WorkItem}
    (told : Told past plan item) (fresh : item.failures = 0) : past.kept item.key = [] := by
  obtain ⟨first, -, -, fewer, numbers⟩ := told.numbered
  rw [fresh, Nat.zero_sub, List.range'_zero, List.map_eq_nil_iff] at numbers
  exact (numbers ▸ told.kept).eq_nil

/-- The final result of the item is still to come. -/
structure Waits (past : Past W) (collector : Collector) (item : WorkItem) : Prop where
  results : collector.results.filter (fun r => r.test.key == item.key) = []
  retried : collector.retriedOf item.key = (past.kept item.key).map Prod.snd

/-- The superseded attempt that was kept last is the final result of the item, and the others are
superseded still. -/
def Gets (past : Past W) (collector : Collector) (item : WorkItem) : Prop :=
  ∀ rest k r, past.kept item.key = rest ++ [(k, r)] →
    collector.results.filter (fun r => r.test.key == item.key) = [r] ∧
      collector.retriedOf item.key = rest.map Prod.snd

theorem Gets.own {past : Past W} {p : PoolState W} {collector : Collector} {item : WorkItem}
    (gets : Gets past collector item) : Gets (past ++ [(p, .own)]) collector item := by
  intro rest k r kept
  rw [Past.kept_own] at kept
  exact gets rest k r kept

/-- What is known of a pool whose queue is not drained. -/
structure Underway (past : Past W) (p : PoolState W) : Prop where
  apart : p.entries.Nodup
  traced : ∀ t ∈ p.upcoming, Traced past p t
  retried : ∀ key, p.collector.retriedOf key = (past.kept key).map Prod.snd
  undrained : past.drained = []

/-- What is known of a pool that accounts for what is left: some of the items have their results,
the others wait. -/
structure Accounts (past : Past W) (p : PoolState W) (done left : List WorkItem) : Prop where
  drained : past.drained = done ++ left
  distinct : Distinct past.drained
  told : ∀ item ∈ past.drained, Told past p.plan item
  gets : ∀ item ∈ done, Gets past p.collector item
  waits : ∀ item ∈ left, Waits past p.collector item

/-- What is known of a pool and its past, in the way of the phase that the pool is in. -/
structure Recorded (setting : Setting W) (past : Past W) (p : PoolState W) : Prop where
  sound : p.Sound setting
  known : match p.phase with
    | .planned | .refused _ | .working => Underway past p
    | .accounting left _ => ∃ done, Accounts past p done left
    | .closing result => ∀ item ∈ past.drained,
      Told past p.plan item ∧ Gets past ⟨result.results, result.retried⟩ item
    | .aborting .. | .finished _ | .lost _ => True

variable {past : Past W} {p p' : PoolState W}

/-! ## Before the queue is drained -/

theorem underway_ofPlan (plan : PoolPlan) : Underway [] (ofPlan (W := W) plan) where
  apart := by
    rw [entries_ofPlan]
    exact WorkQueue.distinct_firsts plan.items
  traced := by
    intro t coming
    have idle {w : Worker W} (hw : w ∈ (ofPlan plan).workers) : w.isBusy = false := by
      exact isBusy_of_mem_ofPlan hw
    rcases mem_upcoming.1 coming with queued | ⟨w, hw, coming⟩
    · refine ⟨?_, t, (WorkQueue.firsts_sublist plan.items).subset queued, rfl, Nat.le_refl _, ?_⟩
      · have nothing : (ofPlan (W := W) plan).awaited t.key = [] :=
          List.flatMap_eq_nil_iff.2 fun w hw => Worker.attempt_eq_nil (idle hw)
        rw [nothing]
        exact .refl _
      · simp [RunState.Past.made, RunState.Past.seen]
    · rw [Worker.upcoming?_eq_none (idle hw)] at coming
      cases coming
  retried := fun key => rfl
  undrained := rfl

variable [Hosted W] {setting : Setting W} {c c' : Common W} {m : PoolMove}

/-- A step in which a worker changes. -/
theorem Underway.shifts {j : Nat} {w w' : Worker W} (underway : Underway past p)
    (h : Change setting p c m p' c') (moved : m.worker? = some j)
    (shifts : Shifts setting p c j w w' p' c') (sound : p.Sound setting) :
    Underway (past ++ [(p, m)]) p' where
  apart := by
    obtain ⟨lost, perm, -⟩ := shifts.entries sound
    exact (List.nodup_append.1 (perm.nodup_iff.1 underway.apart)).1
  traced := by
    intro t' coming
    obtain ⟨t, was_coming, follows⟩ := exists_follows sound underway.apart shifts coming
    exact (underway.traced t was_coming).follows h moved shifts follows
  retried := by
    intro key
    have kept : Past.kept (past ++ [(p, m)]) key = past.kept key ++ w.attempt Stage.stashed? key :=
      h.seen moved shifts.at_j
    have retried : p'.collector.retriedOf key =
        p.collector.retriedOf key ++ (w.attempt Stage.stashed? key).map Prod.snd :=
      shifts.effect.retriedOf (sound w shifts.mem) key
    rw [kept, List.map_append, retried, underway.retried]
  undrained := by
    rw [drained_append, underway.undrained, drains_of_worker moved]
    rfl

omit [Hosted W] in
/-- A step of the pool that leaves its work as it is. -/
theorem Underway.own (underway : Underway past p) (phase : p.phase ≠ .working)
    (plan : p'.plan = p.plan) (queue : p'.queue = p.queue) (workers : p'.workers = p.workers)
    (collector : p'.collector = p.collector) : Underway (past ++ [(p, .own)]) p' where
  apart := by
    unfold PoolState.entries
    rw [queue, workers, collector]
    exact underway.apart
  traced := by
    intro t coming
    unfold upcoming at coming
    rw [queue, workers] at coming
    obtain ⟨kept, numbered⟩ := underway.traced t coming
    constructor
    · unfold awaited at kept ⊢
      rwa [workers, Past.kept_own, Past.made_own]
    · rwa [Past.made_own, plan]
  retried := by
    intro key
    rw [collector, Past.kept_own]
    exact underway.retried key
  undrained := by
    rw [drained_append, underway.undrained, drains_of_phase phase]
    rfl

/-! ## While what is left is accounted for -/

omit [Hosted W] in
/-- When the queue is drained every item that was in it waits. -/
theorem Underway.drain (underway : Underway past p) (phase : p.phase = .working)
    (gone : ∀ w ∈ p.workers, w.isGone = true) (plan : p'.plan = p.plan)
    (collector : p'.collector = p.collector) :
    Accounts (past ++ [(p, .own)]) p' [] p.queue.items := by
  have drained : Past.drained (past ++ [(p, .own)]) = p.queue.items := by
    simp [drained_append, underway.undrained, drains, phase]
  have apart := underway.apart
  unfold PoolState.entries TestFleet.entries at apart
  rw [List.append_assoc] at apart
  obtain ⟨queued, -, across⟩ := List.nodup_append.1 apart
  constructor
  case drained => exact drained
  case distinct =>
    rw [drained]
    exact queued
  case told =>
    rw [drained, plan]
    intro item hitem
    obtain ⟨kept, numbered⟩ := underway.traced item (mem_upcoming.2 (.inl hitem))
    have none : p.awaited item.key = [] := by
      refine List.flatMap_eq_nil_iff.2 fun w hw => Worker.attempt_eq_nil ?_
      exact Worker.isBusy_of_isGone (gone w hw)
    rw [none, List.append_nil] at kept
    exact Told.own ⟨kept, numbered⟩
  case gets => exact fun item none => (List.not_mem_nil none).elim
  case waits =>
    rw [collector]
    intro item hitem
    constructor
    · rw [List.filter_eq_nil_iff]
      intro r hr same
      refine across item.key (List.mem_map_of_mem hitem) r.test.key ?_ (eq_of_beq same).symm
      exact List.mem_append_right _ (List.mem_map_of_mem hr)
    · rw [Past.kept_own]
      exact underway.retried item.key

section Settled

variable {item : WorkItem} {now : Time.Moment} {r : TestResult} {collector : Collector}
  {isUnreachable : Bool}

omit [Hosted W] in
/-- What waits gets the attempt that was kept last. -/
theorem Waits.gets (waits : Waits past p.collector item) (told : Told past p.plan item)
    (settled : p.settleLeft item now = (r, collector, isUnreachable)) :
    Gets past (collector.push r) item := by
  intro rest k last kept
  have retried := waits.retried
  rw [kept, List.map_append, List.map_cons, List.map_nil] at retried
  obtain ⟨key, results⟩ := key_of_settleLeft settled
  rcases settleLeft_eq settled with ⟨-, -, reclaimed⟩ | ⟨-, none, -, -⟩
  · obtain ⟨split, -, -, -⟩ := Collector.reclaim?_eq_some reclaimed
    obtain ⟨others, last_eq⟩ := List.append_inj' (split.symm.trans retried) rfl
    obtain rfl := List.singleton_inj.1 last_eq
    refine ⟨?_, others⟩
    rw [Collector.push, results, List.filter_append, waits.results]
    simp [key]
  · exfalso
    rcases none with fresh | none
    · exact absurd (kept.symm.trans (told.kept_eq_nil fresh)) (by simp)
    · rw [Collector.reclaim?_eq_none_iff.1 none] at retried
      exact absurd retried (by simp)

omit [Hosted W] in
/-- Settling an item touches nothing of other tests. -/
theorem settleLeft_other {other : TestKey} (apart : item.key ≠ other)
    (settled : p.settleLeft item now = (r, collector, isUnreachable)) :
    (collector.push r).results.filter (fun r => r.test.key == other) =
        p.collector.results.filter (fun r => r.test.key == other) ∧
      (collector.push r).retriedOf other = p.collector.retriedOf other := by
  obtain ⟨key, results⟩ := key_of_settleLeft settled
  constructor
  · simp [Collector.push, results, key, apart]
  · rcases settleLeft_eq settled with ⟨-, -, reclaimed⟩ | ⟨-, -, -, rfl⟩
    · exact (Collector.reclaim?_eq_some reclaimed).2.2.2 other apart.symm
    · rfl

omit [Hosted W] in
/-- What waits goes on waiting as another item is settled. -/
theorem Waits.of_other {other : WorkItem} (waits : Waits past p.collector other)
    (apart : item.key ≠ other.key)
    (settled : p.settleLeft item now = (r, collector, isUnreachable)) :
    Waits (past ++ [(p, .own)]) (collector.push r) other := by
  obtain ⟨results, retried⟩ := settleLeft_other apart settled
  exact ⟨results.trans waits.results, by rw [Past.kept_own, retried, waits.retried]⟩

omit [Hosted W] in
/-- An item keeps its result as another is settled. -/
theorem Gets.of_other {other : WorkItem} (gets : Gets past p.collector other)
    (apart : item.key ≠ other.key)
    (settled : p.settleLeft item now = (r, collector, isUnreachable)) :
    Gets (past ++ [(p, .own)]) (collector.push r) other := by
  intro rest k last kept
  rw [Past.kept_own] at kept
  obtain ⟨results, retried⟩ := settleLeft_other apart settled
  rw [results, retried]
  exact gets rest k last kept

omit [Hosted W] in
/-- The item at the head of what is left is accounted for. -/
theorem Accounts.step {done left : List WorkItem} (accounts : Accounts past p done (item :: left))
    (phase : p.phase ≠ .working) (plan : p'.plan = p.plan)
    (settled : p.settleLeft item now = (r, collector, isUnreachable))
    (kept : p'.collector = collector.push r) :
    Accounts (past ++ [(p, .own)]) p' (done ++ [item]) left := by
  have drained : Past.drained (past ++ [(p, .own)]) = past.drained := by
    rw [drained_append, drains_of_phase phase, List.append_nil]
  have distinct := accounts.distinct
  rw [accounts.drained] at distinct
  obtain ⟨-, behind, across⟩ := WorkItem.distinct_append.1 distinct
  constructor
  case drained =>
    rw [drained, accounts.drained, List.append_assoc]
    rfl
  case distinct =>
    rw [drained]
    exact accounts.distinct
  case told =>
    rw [drained, plan]
    exact fun x hx => (accounts.told x hx).own
  case gets =>
    rw [kept]
    intro x hx
    rcases List.mem_append.1 hx with earlier | now_done
    · have apart : item.key ≠ x.key := (across x earlier item List.mem_cons_self).symm
      exact (accounts.gets x earlier).of_other apart settled
    · obtain rfl := List.mem_singleton.1 now_done
      have told := accounts.told x (accounts.drained ▸ List.mem_append_right _ List.mem_cons_self)
      exact ((accounts.waits x List.mem_cons_self).gets told settled).own
  case waits =>
    rw [kept]
    intro x hx
    have apart : item.key ≠ x.key := by
      have behind : (item.key :: left.map WorkItem.key).Nodup := behind
      exact fun same => (List.nodup_cons.1 behind).1 (same ▸ List.mem_map_of_mem hx)
    exact (accounts.waits x (List.mem_cons_of_mem _ hx)).of_other apart settled

end Settled

omit [Hosted W] in
/-- When nothing is left to account for every item that was drained has its result. -/
theorem Accounts.conclude {done : List WorkItem} (accounts : Accounts past p done [])
    (phase : p.phase ≠ .working) :
    ∀ item ∈ Past.drained (past ++ [(p, .own)]),
      Told (past ++ [(p, .own)]) p.plan item ∧ Gets (past ++ [(p, .own)]) p.collector item := by
  have drained : Past.drained (past ++ [(p, .own)]) = done := by
    rw [drained_append, drains_of_phase phase, accounts.drained, List.append_nil, List.append_nil]
  rw [drained]
  intro item hitem
  have told := accounts.told item (accounts.drained ▸ List.mem_append_left _ hitem)
  exact ⟨told.own, (accounts.gets item hitem).own⟩

/-! ## Runs -/

theorem Change.recorded (h : Change setting p c m p' c') (recorded : Recorded setting past p) :
    Recorded setting (past ++ [(p, m)]) p' := by
  refine ⟨h.sound recorded.sound, ?_⟩
  have known := recorded.known
  rcases h.own_or_shifts with rfl | ⟨j, w, w', moved, shifts⟩
  · cases h.turn with
    | begin phase underway =>
      simp only [phase] at known
      have waiting : p.phase ≠ .working := by simp [phase]
      rcases underway with rfl | ⟨e, rfl⟩ <;> exact known.own waiting rfl rfl rfl rfl
    | out goesOn out => cases phase : p'.phase <;> simp_all [PoolPhase.isOut]
    | drain phase gone called =>
      simp only [phase] at known
      exact ⟨[], known.drain phase gone rfl rfl⟩
    | @account item left unreachable count r collector isUnreachable phase settled =>
      simp only [phase] at known
      obtain ⟨done, known⟩ := known
      exact ⟨done ++ [item], known.step (by simp [phase]) rfl settled rfl⟩
    | conclude phase =>
      simp only [phase] at known
      obtain ⟨done, known⟩ := known
      exact known.conclude (by simp [phase])
  · simp only [shifts.phase, shifts.phase'] at known ⊢
    exact known.shifts h moved shifts recorded.sound

end PoolState

/-- Of numbers without a gap the last is the highest just if all before it are lower. -/
theorem last_iff_highest {numbers : List Nat} {k low high : Nat}
    (perm : (numbers ++ [k]).Perm (List.range' low (high - low))) :
    k = high - 1 ↔ ∀ n ∈ numbers, n < high - 1 := by
  have bound {n : Nat} (hn : n ∈ numbers ++ [k]) : low ≤ n ∧ n < high := by
    have := List.mem_range'_1.1 (perm.mem_iff.1 hn)
    omega
  have last := bound (List.mem_append_right _ List.mem_cons_self)
  constructor
  · rintro rfl n hn
    have distinct := perm.nodup_iff.2 List.nodup_range'
    have apart : n ≠ high - 1 :=
      (List.nodup_append.1 distinct).2.2 n hn (high - 1) List.mem_cons_self
    have := bound (List.mem_append_left _ hn)
    omega
  · intro lower
    have highest : high - 1 ∈ numbers ++ [k] := by
      refine perm.mem_iff.2 (List.mem_range'_1.2 ?_)
      omega
    rcases List.mem_append.1 highest with earlier | same
    · exact absurd (lower _ earlier) (Nat.lt_irrefl _)
    · exact (List.mem_singleton.1 same).symm

/-- An item that waited for a retry when its pool drained its queue gets the superseded attempt of
its test that was kept last, and the others stay superseded. The attempts made at the test are
numbered without a gap, and those kept are the same in some order. So the item gets the attempt that
asked for the retry, and attempts before that one are what stays superseded, just if that one was
kept last. -/
theorem stranded_gets_last_kept [Hosted W] {setting : Setting W} {world : W} {quota i : Nat}
    {plans : List PoolPlan} {plan : PoolPlan} {history : RunState.History W} {s : RunState W}
    {result : PoolResult} {item : WorkItem} (planned : plans[i]? = some plan)
    (trace : RunState.Trace setting (.ofPlans world quota plans) history s)
    (concluded : s.conclusion? i = some result)
    (drained : item ∈ Past.drained (history.ofPool i)) :
    (∃ first ∈ plan.items, first.key = item.key ∧ first.failures ≤ item.failures ∧
      (Past.made (history.ofPool i) item.key).map Prod.fst =
        List.range' first.failures (item.failures - first.failures)) ∧
    (Past.kept (history.ofPool i) item.key).Perm (Past.made (history.ofPool i) item.key) ∧
    ∀ rest k r, Past.kept (history.ofPool i) item.key = rest ++ [(k, r)] →
      result.results.filter (fun r => r.test.key == item.key) = [r] ∧
      result.retried.filter (fun r => r.test.key == item.key) = rest.map Prod.snd ∧
      (k = item.failures - 1 ↔ ∀ earlier ∈ rest, earlier.1 < item.failures - 1) := by
  obtain ⟨p, at_i, closing⟩ := RunState.conclusion?_eq_some_iff.1 concluded
  obtain ⟨same, recorded⟩ := trace.induct_ofPlans
    (fun past p _ => PoolState.Recorded setting past p)
    (fun plan' _ => ⟨PoolState.sound_ofPlan setting plan', PoolState.underway_ofPlan plan'⟩)
    (fun _ _ recorded => recorded)
    (fun _ _ _ _ _ _ recorded change => change.recorded recorded) at_i
  obtain rfl := Option.some.inj (planned.symm.trans same)
  have known := recorded.known
  simp only [closing] at known
  obtain ⟨told, gets⟩ := known item drained
  refine ⟨told.numbered, told.kept, ?_⟩
  intro rest k r kept
  obtain ⟨results, retried⟩ := gets rest k r kept
  refine ⟨results, retried, ?_⟩
  obtain ⟨first, -, -, -, numbers⟩ := told.numbered
  have perm := told.kept.map Prod.fst
  rw [kept, numbers, List.map_append, List.map_cons, List.map_nil] at perm
  rw [last_iff_highest perm]
  simp only [List.forall_mem_map]

/-! ## A retry that overtakes -/

namespace Sample

/-- What the run comes to: the attempts made, the order in which they are kept, and the device of the
final result. -/
def isOvertaken (run : RunState.History Host × RunState Host) : Bool :=
  (Past.made (run.1.ofPool 0) item.key).map (fun a => (a.1, a.2.device)) == [(0, ⟨"a"⟩), (1, ⟨"b"⟩)] &&
    (Past.kept (run.1.ofPool 0) item.key).map (fun a => (a.1, a.2.device)) ==
      [(1, ⟨"b"⟩), (0, ⟨"a"⟩)] &&
    (Past.drained (run.1.ofPool 0)).any (fun x => x.key == item.key && x.failures == 2) &&
    (run.2.conclusion? 0).any fun result => result.results.map (·.device) == [⟨"a"⟩]

theorem exists_overtaken : ∃ history s result,
    RunState.Trace setting start history s ∧ s.conclusion? 0 = some result ∧
      (Past.made (history.ofPool 0) item.key).map (fun a => (a.1, a.2.device)) =
        [(0, ⟨"a"⟩), (1, ⟨"b"⟩)] ∧
      (Past.kept (history.ofPool 0) item.key).map (fun a => (a.1, a.2.device)) =
        [(1, ⟨"b"⟩), (0, ⟨"a"⟩)] ∧
      (∃ x ∈ Past.drained (history.ofPool 0), x.key = item.key ∧ x.failures = 2) ∧
      result.results.map (·.device) = [⟨"a"⟩] := by
  obtain ⟨history, s, trace, passes⟩ := RunState.exists_trace_of_follow setting start
    (opening ++ overtaking ++ ending) isOvertaken (by decide +kernel)
  simp only [isOvertaken, Bool.and_eq_true, beq_iff_eq, List.any_eq_true] at passes
  obtain ⟨⟨⟨made, kept⟩, drained⟩, ends⟩ := passes
  obtain ⟨result, concluded, results⟩ := (Option.any_eq_true _ _).1 ends
  exact ⟨history, s, result, trace, concluded, made, kept, drained, eq_of_beq results⟩

end Sample

/-- The attempt on `a` is kept last, and so it is what the item gets. -/
theorem stranded_of_sample : ∃ history s result last,
    RunState.Trace Sample.setting Sample.start history s ∧ s.conclusion? 0 = some result ∧
      (∃ x ∈ Past.drained (history.ofPool 0), x.key = Sample.item.key ∧ x.failures = 2) ∧
      (Past.kept (history.ofPool 0) Sample.item.key).getLast? = some (0, last) ∧
      result.results.filter (fun r => r.test.key == Sample.item.key) = [last] := by
  obtain ⟨history, s, result, trace, concluded, -, kept, ⟨x, drained, own, failures⟩, -⟩ :=
    Sample.exists_overtaken
  obtain ⟨earlier, rest, split, -, kept⟩ := List.map_eq_cons_iff.1 kept
  obtain ⟨⟨k, last⟩, rest, rfl, number, kept⟩ := List.map_eq_cons_iff.1 kept
  obtain rfl := List.map_eq_nil_iff.1 kept
  obtain ⟨rfl, -⟩ := Prod.mk.inj number
  have all := stranded_gets_last_kept rfl trace concluded drained
  rw [own] at all
  exact ⟨history, s, result, last, trace, concluded, ⟨x, drained, own, failures⟩,
    by rw [split]; rfl, (all.2.2 [earlier] 0 last split).1⟩

/-- The item does not get the attempt that asked for the retry, which was the second. -/
theorem overtaken_in_sample : ∃ history s result x asker,
    RunState.Trace Sample.setting Sample.start history s ∧ s.conclusion? 0 = some result ∧
      x ∈ Past.drained (history.ofPool 0) ∧ x.failures = 2 ∧
      (1, asker) ∈ Past.made (history.ofPool 0) x.key ∧
      result.results.length = 1 ∧ ∀ r ∈ result.results, r.device ≠ asker.device := by
  obtain ⟨history, s, result, trace, concluded, made, -, ⟨x, drained, own, failures⟩, results⟩ :=
    Sample.exists_overtaken
  have second : (1, ⟨"b"⟩) ∈ (Past.made (history.ofPool 0) Sample.item.key).map
      fun a => (a.1, a.2.device) := by
    rw [made]
    decide
  obtain ⟨⟨k, asker⟩, asked, same⟩ := List.mem_map.1 second
  obtain ⟨rfl, on_b⟩ := Prod.mk.inj same
  refine ⟨history, s, result, x, asker, trace, concluded, drained, failures, own ▸ asked, ?_, ?_⟩
  · simpa using congrArg List.length results
  · intro r hr
    have on_a : r.device ∈ result.results.map (·.device) := List.mem_map_of_mem hr
    rw [results, List.mem_singleton] at on_a
    rw [on_a, on_b]
    decide

end TestFleet
