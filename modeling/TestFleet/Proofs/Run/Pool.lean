import TestFleet.Proofs.Run.Worker
import TestFleet.Run.Machine
/-!
# The steps of a pool and the runs of several

`PoolState.Change` lists what can happen in a pool. While the count of items in flight is that of the
items in the workers' hands (`RunState.Reachable.tallied`), a step of a run is a change of one of its
pools (`RunState.step_eq_some`). A `Trace` is a run with all that happened in it, so that what was
done before can be spoken of. A property of a pool and of its past that every change keeps holds at
the end of every run (`Trace.induct`).
-/
namespace TestFleet

variable {W : Type}

/-- What can move in a pool: the pool itself, a worker, or the pool as a worker has ended. -/
inductive PoolMove where
  | own
  | worker (j : Nat)
  | join (j : Nat)
  deriving DecidableEq, Repr, Inhabited

/-- The worker that a move is about. -/
def PoolMove.worker? : PoolMove → Option Nat
  | .own => none
  | .worker j | .join j => some j

namespace RunMove

/-- The pool that a move takes place in. -/
def place : RunMove → Nat
  | .pool i | .worker i _ _ | .join i _ => i

/-- What moves in that pool. -/
def mover : RunMove → PoolMove
  | .pool _ => .own
  | .worker _ j _ => .worker j
  | .join _ j => .join j

end RunMove

/-- When one element of a list is replaced the others stay what they are. -/
theorem exists_others_of_set {α : Type} {xs : List α} {i : Nat} {a b : α} (at_i : xs[i]? = some a) :
    ∃ others, xs.Perm (a :: others) ∧ (xs.set i b).Perm (b :: others) := by
  obtain ⟨inside, rfl⟩ := List.getElem?_eq_some_iff.1 at_i
  exact ⟨xs.eraseIdx i, (List.getElem_cons_eraseIdx_perm inside).symm,
    List.set_perm_cons_eraseIdx inside b⟩

/-- Whether a pool has given up or is over. -/
def PoolPhase.isOut : PoolPhase → Bool
  | .aborting .. | .finished _ | .lost _ => true
  | _ => false

namespace PoolState

/-- What the workers of a pool share. -/
def shared (p : PoolState W) (c : Common W) : Shared W :=
  ⟨c.world, c.budget, c.cancelled, p.queue, p.collector⟩

/-- The pool after a step of one of its workers. -/
def withWorker (p : PoolState W) (j : Nat) (w : Worker W) (s : Shared W) : PoolState W :=
  { p with workers := p.workers.set j w, queue := s.queue, collector := s.collector }

/-! ## What the parts of a step do -/

/-- A pool that has been started works, was refused or is over; its work is as it was. -/
theorem start_eq (setting : Setting W) (ctx : PoolContext) (p : PoolState W) (world : W) :
    ∃ rules depth phase, (p.start setting ctx world).1 = { p with rules, depth, phase } ∧
      match phase with
      | .working | .refused _ | .finished (.error _) | .lost _ => True
      | _ => False := by
  unfold PoolState.start
  split
  · exact ⟨p.rules, p.depth, _, rfl, trivial⟩
  · exact ⟨p.rules, p.depth, _, rfl, trivial⟩
  · rename_i rules built
    dsimp only
    split
    · split
      · exact ⟨rules, _, _, rfl, trivial⟩
      · exact ⟨rules, _, _, rfl, trivial⟩
    · exact ⟨rules, p.depth, _, rfl, trivial⟩
    · exact ⟨rules, p.depth, _, rfl, trivial⟩

/-- A pool that gives up is over with its error, or by a panic. -/
theorem abort_eq (ctx : PoolContext) (e : RunError) (r : PoolResult) (p : PoolState W) (world : W) :
    (p.abort ctx e r world).1 = p.at_ (.finished (.error e)) ∨
      ∃ m, (p.abort ctx e r world).1 = p.at_ (.lost m) := by
  unfold abort
  split
  · exact .inr ⟨_, rfl⟩
  · exact .inl rfl

/-- A pool that closes is over, with an outcome or by a panic. -/
theorem close_eq (ctx : PoolContext) (r : PoolResult) (p : PoolState W) (world : W) :
    (∃ outcome, (p.close ctx r world).1 = p.at_ (.finished outcome)) ∨
      ∃ m, (p.close ctx r world).1 = p.at_ (.lost m) := by
  unfold close
  split
  · exact .inl ⟨_, rfl⟩
  · exact .inl ⟨_, rfl⟩
  · exact .inr ⟨_, rfl⟩

/-- A pool concludes only in a run that was not called off. -/
theorem failure?_eq_none_iff {p : PoolState W} {off : Bool} :
    p.failure? off = none ↔ p.fatal = none ∧ off = false := by
  unfold failure?
  cases p.fatal <;> simp

/-- An item that is left gets the superseded attempt that the collector gives back, or is booked as
unreachable. -/
theorem settleLeft_eq {p : PoolState W} {item : WorkItem} {now : Time.Moment} {r : TestResult}
    {collector : Collector} {isUnreachable : Bool}
    (h : p.settleLeft item now = (r, collector, isUnreachable)) :
    (isUnreachable = false ∧ item.failures ≠ 0 ∧
        p.collector.reclaim? item.key = some (r, collector)) ∨
      (isUnreachable = true ∧ (item.failures = 0 ∨ p.collector.reclaim? item.key = none) ∧
        r = unreachableResult p.plan.pool item now ∧ collector = p.collector) := by
  unfold settleLeft at h
  dsimp only at h
  split at h
  · rename_i reclaimed
    obtain ⟨fresh, reclaimed⟩ := Option.ite_none_left_eq_some.1 reclaimed
    cases h
    exact .inl ⟨rfl, fresh, reclaimed⟩
  · rename_i nothing
    cases h
    refine .inr ⟨rfl, ?_, rfl, rfl⟩
    by_cases fresh : item.failures = 0
    · exact .inl fresh
    · rw [if_neg fresh] at nothing
      exact .inr nothing

/-- The final result of an item that is left is of its test. -/
theorem key_of_settleLeft {p : PoolState W} {item : WorkItem} {now : Time.Moment} {r : TestResult}
    {collector : Collector} {isUnreachable : Bool}
    (h : p.settleLeft item now = (r, collector, isUnreachable)) :
    r.test.key = item.key ∧ collector.results = p.collector.results := by
  rcases settleLeft_eq h with ⟨-, -, reclaimed⟩ | ⟨-, -, rfl, rfl⟩
  · obtain ⟨-, own, results, -⟩ := Collector.reclaim?_eq_some reclaimed
    exact ⟨own, results⟩
  · exact ⟨rfl, rfl⟩

variable [Hosted W]

/-- An item that is left is settled, and its result kept unless the reporter panics. -/
theorem account_eq (setting : Setting W) (item : WorkItem) (left : List WorkItem)
    (unreachable : Nat) (p : PoolState W) (world : W) :
    ∃ r collector isUnreachable, p.settleLeft item (Hosted.now world) = (r, collector, isUnreachable) ∧
      ((∃ m, (setting.reporter.tested r world).1 = .panicked m ∧
          (p.account setting item left unreachable world).1 =
            { p with collector }.at_ (.lost m)) ∨
        ∃ count, (p.account setting item left unreachable world).1 =
          { p with collector := collector.push r }.at_ (.accounting left count)) := by
  unfold account
  obtain ⟨r, collector, isUnreachable⟩ := p.settleLeft item (Hosted.now world)
  refine ⟨r, collector, isUnreachable, rfl, ?_⟩
  dsimp only
  split
  · rename_i m world' told
    exact .inl ⟨m, by rw [told], rfl⟩
  · exact .inr ⟨_, rfl⟩

/-! ## Steps -/

/-- The steps of a pool, with what becomes of it and of what all pools share. -/
inductive Change (setting : Setting W) (p : PoolState W) (c : Common W) :
    PoolMove → PoolState W → Common W → Prop where
  | start (phase : p.phase = .planned) :
    Change setting p c .own (p.start setting ⟨setting.context, p.plan.pool⟩ c.world).1
      { c with world := (p.start setting ⟨setting.context, p.plan.pool⟩ c.world).2 }
  | refuse {e : RunError} (phase : p.phase = .refused e) :
    Change setting p c .own (p.at_ (.aborting e (.ofPool p.id))) { c with cancelled := true }
  | fail {e : RunError} (phase : p.phase = .working) (gone : ∀ w ∈ p.workers, w.isGone = true)
    (failed : p.failure? c.cancelled = some e) :
    Change setting p c .own (p.at_ (.aborting e (p.resultSoFar 0))) c
  | drain (phase : p.phase = .working) (gone : ∀ w ∈ p.workers, w.isGone = true)
    (fine : p.failure? c.cancelled = none) :
    Change setting p c .own
      ({ p with queue := ⟨[], p.queue.inFlight⟩ }.at_ (.accounting p.queue.items 0)) c
  | abort {e : RunError} {r : PoolResult} (phase : p.phase = .aborting e r) :
    Change setting p c .own (p.abort ⟨setting.context, p.plan.pool⟩ e r c.world).1
      { c with world := (p.abort ⟨setting.context, p.plan.pool⟩ e r c.world).2 }
  | account {item : WorkItem} {left : List WorkItem} {unreachable : Nat}
    (phase : p.phase = .accounting (item :: left) unreachable) :
    Change setting p c .own (p.account setting item left unreachable c.world).1
      { c with world := (p.account setting item left unreachable c.world).2 }
  | conclude {unreachable : Nat} (phase : p.phase = .accounting [] unreachable) :
    Change setting p c .own (p.at_ (.closing (p.resultSoFar unreachable))) c
  | close {r : PoolResult} (phase : p.phase = .closing r) :
    Change setting p c .own (p.close ⟨setting.context, p.plan.pool⟩ r c.world).1
      { c with world := (p.close ⟨setting.context, p.plan.pool⟩ r c.world).2 }
  | worker {j : Nat} {w w' : Worker W} {s' : Shared W} (phase : p.phase = .working)
    (at_j : p.workers[j]? = some w)
    (change : w.Change setting ⟨setting.context, p.plan.pool⟩ (p.shared c) w' s') :
    Change setting p c (.worker j) (p.withWorker j w' s') ⟨s'.world, s'.budget, s'.cancelled⟩
  | join {j : Nat} {w : Worker W} {summary : DeviceSummary} (phase : p.phase = .working)
    (at_j : p.workers[j]? = some w) (stopped : w.phase = .stopped (.ok summary)) :
    Change setting p c (.join j)
      { p with workers := p.workers.set j (w.at_ .gone), devices := p.devices ++ [summary] } c
  | joinFailed {j : Nat} {w : Worker W} {e : PipelineError} (phase : p.phase = .working)
    (at_j : p.workers[j]? = some w) (stopped : w.phase = .stopped (.error e)) :
    Change setting p c (.join j)
      { p with workers := p.workers.set j (w.at_ .gone), fatal := p.fatal <|> some e }
      { c with cancelled := true }

variable {setting : Setting W} {p p' : PoolState W} {c c' : Common W} {j : Nat}

theorem change_of_step (h : p.step setting c = some (p', c')) :
    Change setting p c .own p' c' := by
  unfold step at h
  dsimp only at h
  split at h
  · cases h
    exact .start ‹_›
  · cases h
    exact .refuse ‹_›
  · rename_i phase
    obtain ⟨gone, h⟩ := Option.ite_none_right_eq_some.1 h
    have gone : ∀ w ∈ p.workers, w.isGone = true := List.all_eq_true.1 gone
    split at h
    · cases h
      exact .fail phase gone ‹_›
    · cases h
      exact .drain phase gone ‹_›
  · cases h
    exact .abort ‹_›
  · cases h
    exact .conclude ‹_›
  · cases h
    exact .account ‹_›
  · cases h
    exact .close ‹_›
  · cases h
  · cases h

theorem change_of_stepWorker {move : WorkerMove}
    (held : ∀ w ∈ p.workers, w.isBusy = true → p.queue.inFlight ≠ 0)
    (h : p.stepWorker setting j move c = some (p', c')) :
    Change setting p c (.worker j) p' c' := by
  unfold stepWorker at h
  split at h
  · rename_i worker phase at_j
    obtain ⟨⟨w', s'⟩, stepped, pair⟩ := Option.map_eq_some_iff.1 h
    cases pair
    exact .worker phase at_j (Worker.change_of_step (held _ (List.mem_of_getElem? at_j)) stepped)
  · cases h

theorem change_of_join (h : p.join j c = some (p', c')) : Change setting p c (.join j) p' c' := by
  unfold join at h
  split at h
  · rename_i worker phase at_j
    split at h
    · rename_i outcome stopped
      dsimp only at h
      split at h
      · cases h
        exact .join phase at_j stopped
      · cases h
        exact .joinFailed phase at_j stopped
    · cases h
  · cases h

/-- What was called off stays called off. -/
theorem Change.cancelled {m : PoolMove} (h : Change setting p c m p' c')
    (off : c.cancelled = true) : c'.cancelled = true := by
  cases h with
  | worker phase at_j change =>
    cases change with
    | work phase change => cases change <;> exact off
    | cancel => rfl
    | _ => exact off
  | refuse => rfl
  | joinFailed => rfl
  | _ => exact off

/-- A pool that goes on with its plan and its workers, and with nothing new in its queue. -/
structure GoesOn (p p' : PoolState W) : Prop where
  plan : p'.plan = p.plan
  workers : p'.workers = p.workers
  devices : p'.devices = p.devices
  inFlight : p'.queue.inFlight = p.queue.inFlight
  queued : p'.queue.items.Sublist p.queue.items

omit [Hosted W] in
theorem GoesOn.refl (p : PoolState W) : p.GoesOn p := ⟨rfl, rfl, rfl, rfl, .refl _⟩

/-- What a pool does itself, told apart by what becomes of its items. -/
inductive Turn (p : PoolState W) (c : Common W) : PoolState W → Prop where
  /-- The pool has been entered, or was refused. -/
  | begin {rules : List (Rule W PoolContext PoolResult)} {depth : Nat} {next : PoolPhase}
    (phase : p.phase = .planned) (underway : next = .working ∨ ∃ e, next = .refused e) :
    Turn p c { p with rules, depth, phase := next }
  /-- The pool has given up or is over. -/
  | out {p' : PoolState W} (goesOn : p.GoesOn p') (out : p'.phase.isOut = true) : Turn p c p'
  | drain (phase : p.phase = .working) (gone : ∀ w ∈ p.workers, w.isGone = true)
    (called : c.cancelled = false) :
    Turn p c ({ p with queue := ⟨[], p.queue.inFlight⟩ }.at_ (.accounting p.queue.items 0))
  | account {item : WorkItem} {left : List WorkItem} {unreachable count : Nat} {r : TestResult}
    {collector : Collector} {isUnreachable : Bool}
    (phase : p.phase = .accounting (item :: left) unreachable)
    (settled : p.settleLeft item (Hosted.now c.world) = (r, collector, isUnreachable)) :
    Turn p c ({ p with collector := collector.push r }.at_ (.accounting left count))
  | conclude {unreachable : Nat} (phase : p.phase = .accounting [] unreachable) :
    Turn p c (p.at_ (.closing (p.resultSoFar unreachable)))

theorem Change.turn (h : Change setting p c .own p' c') : Turn p c p' := by
  cases h with
  | start phase =>
    obtain ⟨rules, depth, next, eq, allowed⟩ :=
      start_eq setting ⟨setting.context, p.plan.pool⟩ p c.world
    rw [eq]
    cases next with
    | working => exact .begin phase (.inl rfl)
    | refused e => exact .begin phase (.inr ⟨e, rfl⟩)
    | finished o => exact .out { GoesOn.refl p with } rfl
    | lost m => exact .out { GoesOn.refl p with } rfl
    | _ => exact allowed.elim
  | refuse => exact .out { GoesOn.refl p with } rfl
  | fail => exact .out { GoesOn.refl p with } rfl
  | drain phase gone fine => exact .drain phase gone (failure?_eq_none_iff.1 fine).2
  | @abort e r =>
    rcases abort_eq ⟨setting.context, p.plan.pool⟩ e r p c.world with eq | ⟨m, eq⟩ <;> rw [eq] <;>
      exact .out { GoesOn.refl p with } rfl
  | @account item left unreachable phase =>
    obtain ⟨r, collector, _, settled, ⟨m, -, eq⟩ | ⟨count, eq⟩⟩ :=
      account_eq setting item left unreachable p c.world
    · rw [eq]
      exact .out { GoesOn.refl p with } rfl
    · rw [eq]
      exact .account phase settled
  | conclude phase => exact .conclude phase
  | @close r =>
    rcases close_eq ⟨setting.context, p.plan.pool⟩ r p c.world with ⟨o, eq⟩ | ⟨m, eq⟩ <;>
      rw [eq] <;> exact .out { GoesOn.refl p with } rfl

/-- What a pool does itself concerns no worker. -/
theorem Change.goesOn (h : Change setting p c .own p' c') : p.GoesOn p' := by
  rcases h.turn with _ | ⟨goesOn, -⟩ | _ | _ | _
  · exact { GoesOn.refl p with }
  · exact goesOn
  · exact { GoesOn.refl p with queued := List.nil_sublist _ }
  · exact { GoesOn.refl p with }
  · exact { GoesOn.refl p with }

/-- The plan of a pool does not change. -/
theorem Change.plan {m : PoolMove} (h : Change setting p c m p' c') : p'.plan = p.plan := by
  cases m with
  | own => exact h.goesOn.plan
  | worker j => cases h; rfl
  | join j => cases h <;> rfl

/-! ## One worker among others -/

/-- The pool takes note that a worker has stopped. It keeps the summary that the worker left, and an
error calls the run off. -/
structure Notes (p : PoolState W) (c : Common W) (w w' : Worker W) (p' : PoolState W)
    (c' : Common W) : Prop where
  stopped : ∃ outcome, w.phase = .stopped outcome
  gone : w' = w.at_ .gone
  queue : p'.queue = p.queue
  collector : p'.collector = p.collector
  summary : ∀ summary, w.phase = .stopped (.ok summary) → summary ∈ p'.devices
  error : ∀ e, w.phase = .stopped (.error e) → c'.cancelled = true
  budget : c'.budget = c.budget

/-- A step of a pool in which one of its workers changes: the worker makes a step, or the pool takes
note that it has stopped. -/
structure Shifts (setting : Setting W) (p : PoolState W) (c : Common W) (j : Nat) (w w' : Worker W)
    (p' : PoolState W) (c' : Common W) : Prop where
  phase : p.phase = .working
  phase' : p'.phase = .working
  at_j : p.workers[j]? = some w
  workers : p'.workers = p.workers.set j w'
  summaries : p.devices ⊆ p'.devices
  cause : w.Change setting ⟨setting.context, p.plan.pool⟩ (p.shared c) w' (p'.shared c') ∨
    Notes p c w w' p' c'

/-- A pool moves by itself, or one of its workers changes. -/
theorem Change.own_or_shifts {m : PoolMove} (h : Change setting p c m p' c') :
    m = .own ∨ ∃ j w w', m.worker? = some j ∧ Shifts setting p c j w w' p' c' := by
  cases m with
  | own => exact .inl rfl
  | worker j =>
    cases h with
    | worker phase at_j change =>
      exact .inr ⟨j, _, _, rfl, phase, phase, at_j, rfl, List.Subset.refl _, .inl change⟩
  | join j =>
    cases h with
    | @join j w summary phase at_j stopped =>
      refine .inr ⟨j, w, _, rfl, phase, phase, at_j, rfl, List.subset_append_left _ _, .inr ?_⟩
      refine ⟨⟨_, stopped⟩, rfl, rfl, rfl, fun other left => ?_, fun e left => ?_, rfl⟩
      · obtain rfl : summary = other := by simpa [stopped] using left
        exact List.mem_append_right _ List.mem_cons_self
      · simp [stopped] at left
    | @joinFailed j w e phase at_j stopped =>
      refine .inr ⟨j, w, _, rfl, phase, phase, at_j, rfl, List.Subset.refl _, .inr ?_⟩
      refine ⟨⟨_, stopped⟩, rfl, rfl, rfl, fun summary left => ?_, fun _ _ => rfl, rfl⟩
      simp [stopped] at left

section Shifts

variable {w w' : Worker W} (shifts : Shifts setting p c j w w' p' c')

include shifts

theorem Shifts.effect :
    w.Effect setting ⟨setting.context, p.plan.pool⟩ (p.shared c) w' (p'.shared c') := by
  rcases shifts.cause with change | ⟨⟨outcome, stopped⟩, rfl, queue, collector, -⟩
  · exact change.effect
  · exact .none (by simp only [Worker.isBusy, stopped]) rfl queue collector

theorem Shifts.device : w'.device = w.device := by
  rcases shifts.cause with change | ⟨-, rfl, -⟩
  · exact change.device
  · rfl

/-- When one worker changes the others stay what they are. -/
theorem Shifts.exists_others :
    ∃ others, p.workers.Perm (w :: others) ∧ p'.workers.Perm (w' :: others) := by
  rw [shifts.workers]
  exact exists_others_of_set shifts.at_j

theorem Shifts.mem : w ∈ p.workers := List.mem_of_getElem? shifts.at_j

theorem Shifts.mem' : w' ∈ p'.workers := by
  obtain ⟨others, -, after⟩ := shifts.exists_others
  exact after.mem_iff.2 List.mem_cons_self

theorem Shifts.eq_or_mem {v : Worker W} (hv : v ∈ p'.workers) : v = w' ∨ v ∈ p.workers := by
  obtain ⟨others, before, after⟩ := shifts.exists_others
  refine (List.mem_cons.1 (after.mem_iff.1 hv)).imp_right fun other => ?_
  exact before.mem_iff.2 (List.mem_cons_of_mem _ other)

theorem Shifts.eq_or_mem' {v : Worker W} (hv : v ∈ p.workers) : v = w ∨ v ∈ p'.workers := by
  obtain ⟨others, before, after⟩ := shifts.exists_others
  refine (List.mem_cons.1 (before.mem_iff.1 hv)).imp_right fun other => ?_
  exact after.mem_iff.2 (List.mem_cons_of_mem _ other)

theorem Shifts.crew :
    p'.workers.map (fun w => w.device) = p.workers.map fun w => w.device := by
  obtain ⟨inside, rfl⟩ := List.getElem?_eq_some_iff.1 shifts.at_j
  rw [shifts.workers, List.map_set, shifts.device,
    ← List.getElem_map (fun w : Worker W => w.device), List.set_getElem_self]
  rwa [List.length_map]

end Shifts

/-- The devices of a pool keep their workers. -/
theorem Change.crew {m : PoolMove} (h : Change setting p c m p' c') :
    p'.workers.map (fun w => w.device) = p.workers.map fun w => w.device := by
  rcases h.own_or_shifts with rfl | ⟨j, w, w', -, shifts⟩
  · rw [h.goesOn.workers]
  · exact shifts.crew

/-- The workers of a pool have in hand what is theirs. -/
def Sound (setting : Setting W) (p : PoolState W) : Prop :=
  ∀ w ∈ p.workers, w.Sound setting ⟨setting.context, p.plan.pool⟩

theorem Change.sound {m : PoolMove} (h : Change setting p c m p' c') (sound : p.Sound setting) :
    p'.Sound setting := by
  intro v hv
  rw [h.plan]
  rcases h.own_or_shifts with rfl | ⟨j, w, w', -, shifts⟩
  · exact sound v (h.goesOn.workers ▸ hv)
  · rcases shifts.eq_or_mem hv with rfl | other
    · exact shifts.effect.sound shifts.device (sound w shifts.mem)
    · exact sound v other

/-! ## Items in flight -/

/-- As many items are in flight as workers are busy. -/
def Tallied (p : PoolState W) : Prop := p.queue.inFlight = p.workers.countP Worker.isBusy

omit [Hosted W] in
/-- The item of a busy worker is in flight. -/
theorem Tallied.held {w : Worker W} (tallied : p.Tallied) (hw : w ∈ p.workers)
    (busy : w.isBusy = true) : p.queue.inFlight ≠ 0 := by
  rw [tallied, ← Nat.pos_iff_ne_zero]
  exact List.countP_pos_iff.2 ⟨w, hw, busy⟩

omit [Hosted W] in
theorem countP_isBusy_cons (w : Worker W) (workers : List (Worker W)) :
    (w :: workers).countP Worker.isBusy = workers.countP Worker.isBusy + w.isBusy.toNat := by
  rw [List.countP_cons]
  cases w.isBusy <;> rfl

theorem Change.tallied {m : PoolMove} (h : Change setting p c m p' c') (tallied : p.Tallied) : p'.Tallied := by
  unfold Tallied at tallied ⊢
  rcases h.own_or_shifts with rfl | ⟨j, w, w', -, shifts⟩
  · rw [h.goesOn.workers, h.goesOn.inFlight, tallied]
  · obtain ⟨others, before, after⟩ := shifts.exists_others
    rw [before.countP_eq, countP_isBusy_cons] at tallied
    have step : p'.queue.inFlight + w.isBusy.toNat = p.queue.inFlight + w'.isBusy.toNat :=
      shifts.effect.inFlight (tallied ▸ Nat.le_add_left ..)
    rw [after.countP_eq, countP_isBusy_cons]
    omega

/-! ## Before the first step -/

omit [Hosted W] in
theorem phase_of_mem_ofPlan {plan : PoolPlan} {w : Worker W} (hw : w ∈ (ofPlan plan).workers) :
    w.phase = .starting := by
  obtain ⟨device, -, rfl⟩ := List.mem_map.1 hw
  rfl

omit [Hosted W] in
theorem isBusy_of_mem_ofPlan {plan : PoolPlan} {w : Worker W} (hw : w ∈ (ofPlan plan).workers) :
    w.isBusy = false := by
  simp only [Worker.isBusy, phase_of_mem_ofPlan hw]

omit [Hosted W] in
theorem sound_ofPlan (setting : Setting W) (plan : PoolPlan) : (ofPlan plan).Sound setting := by
  intro w hw
  refine Worker.sound_of_idle ?_
  exact isBusy_of_mem_ofPlan hw

omit [Hosted W] in
theorem tallied_ofPlan (plan : PoolPlan) : (ofPlan plan : PoolState W).Tallied := by
  refine (List.countP_eq_zero.2 fun w hw => ?_).symm
  rw [isBusy_of_mem_ofPlan hw]
  exact Bool.false_ne_true

end PoolState

namespace RunState

/-- The result that a pool of a run is about to leave its scope with. -/
def conclusion? (s : RunState W) (i : Nat) : Option PoolResult := do
  match (← s.pools[i]?).phase with
  | .closing result => some result
  | _ => none

theorem conclusion?_eq_some_iff {s : RunState W} {i : Nat} {result : PoolResult} :
    s.conclusion? i = some result ↔ ∃ p, s.pools[i]? = some p ∧ p.phase = .closing result := by
  unfold conclusion?
  rw [Option.bind_eq_bind, Option.bind_eq_some_iff]
  refine exists_congr fun p => and_congr_right fun _ => ?_
  cases p.phase <;> simp

/-- In every pool as many items are in flight as workers are busy. -/
def Tallied (s : RunState W) : Prop := ∀ p ∈ s.pools, p.Tallied

theorem tallied_ofPlans (world : W) (quota : Nat) (plans : List PoolPlan) :
    (ofPlans world quota plans).Tallied := by
  intro p hp
  obtain ⟨plan, -, rfl⟩ := List.mem_map.1 hp
  exact PoolState.tallied_ofPlan plan

variable [Hosted W] {setting : Setting W} {s t start : RunState W}

/-- A step of a run in which the items in flight are counted is a change of one of its pools. -/
theorem step_eq_some {move : RunMove} (tallied : s.Tallied) (h : s.step setting move = some t) :
    ∃ p p' c', s.pools[move.place]? = some p ∧
      PoolState.Change setting p s.common move.mover p' c' ∧ t = s.put move.place (p', c') := by
  cases move with
  | pool i =>
    obtain ⟨p, at_i, h⟩ := Option.bind_eq_some_iff.1 h
    obtain ⟨⟨p', c'⟩, stepped, rfl⟩ := Option.map_eq_some_iff.1 h
    exact ⟨p, p', c', at_i, PoolState.change_of_step stepped, rfl⟩
  | worker i j move =>
    obtain ⟨p, at_i, h⟩ := Option.bind_eq_some_iff.1 h
    obtain ⟨⟨p', c'⟩, stepped, rfl⟩ := Option.map_eq_some_iff.1 h
    have held := fun w hw => (tallied p (List.mem_of_getElem? at_i)).held (w := w) hw
    exact ⟨p, p', c', at_i, PoolState.change_of_stepWorker held stepped, rfl⟩
  | join i j =>
    obtain ⟨p, at_i, h⟩ := Option.bind_eq_some_iff.1 h
    obtain ⟨⟨p', c'⟩, stepped, rfl⟩ := Option.map_eq_some_iff.1 h
    exact ⟨p, p', c', at_i, PoolState.change_of_join stepped, rfl⟩

/-- The items in flight stay counted. -/
theorem tallied_of_step {move : RunMove} (tallied : s.Tallied) (h : s.step setting move = some t) :
    t.Tallied := by
  obtain ⟨p, p', c', at_place, change, rfl⟩ := step_eq_some tallied h
  intro q hq
  rcases List.mem_or_eq_of_mem_set hq with other | rfl
  · exact tallied q other
  · exact change.tallied (tallied p (List.mem_of_getElem? at_place))

theorem Reachable.tallied_of_start (reachable : Reachable setting start s) (tallied : start.Tallied) :
    s.Tallied := by
  induction reachable with
  | refl => exact tallied
  | step move _ stepped ih => exact tallied_of_step ih stepped

section OfPlans

variable {world : W} {quota : Nat} {plans : List PoolPlan}
  (reachable : Reachable setting (ofPlans world quota plans) s)

include reachable

/-- **No item is ever released in vain**: in every state of a run as many items are in flight in a pool
as workers are busy there. -/
theorem Reachable.tallied : s.Tallied := reachable.tallied_of_start (tallied_ofPlans _ _ _)

theorem Reachable.step_eq_some {move : RunMove} (h : s.step setting move = some t) :
    ∃ p p' c', s.pools[move.place]? = some p ∧
      PoolState.Change setting p s.common move.mover p' c' ∧ t = s.put move.place (p', c') :=
  RunState.step_eq_some reachable.tallied h

end OfPlans

/-- What happened in a run: the states it was in, each with the move made there. -/
abbrev History (W : Type) := List (RunState W × RunMove)

/-- What happened in a pool: the states it was in, each with what moved there. -/
abbrev Past (W : Type) := List (PoolState W × PoolMove)

/-- What happened in a pool of a run. -/
def History.ofPool (h : History W) (i : Nat) : Past W :=
  h.filterMap fun (s, move) =>
    if move.place = i then (s.pools[i]?).map fun p => (p, move.mover) else none

/-- What is seen of the moves in a pool of a run. -/
def History.logged {α : Type} (look : PoolState W → Common W → PoolMove → α) (h : History W) (i : Nat) :
    List α :=
  h.filterMap fun (s, move) =>
    if move.place = i then (s.pools[i]?).map fun p => look p s.common move.mover else none

section Logged

variable {α : Type} (look : PoolState W → Common W → PoolMove → α) {h : History W} {move : RunMove}

omit [Hosted W] in
theorem History.logged_append_here {p : PoolState W} (at_place : s.pools[move.place]? = some p) :
    History.logged look (h ++ [(s, move)]) move.place =
      h.logged look move.place ++ [look p s.common move.mover] := by
  simp [History.logged, at_place]

omit [Hosted W] in
theorem History.logged_append_elsewhere {i : Nat} (elsewhere : move.place ≠ i) :
    History.logged look (h ++ [(s, move)]) i = h.logged look i := by
  simp [History.logged, elsewhere]

omit [Hosted W] in
theorem History.map_logged {β : Type} (f : α → β) (i : Nat) :
    (h.logged look i).map f = h.logged (fun p c m => f (look p c m)) i := by
  unfold History.logged
  rw [List.map_filterMap]
  refine List.filterMap_congr fun (s, move) _ => ?_
  by_cases here : move.place = i <;> simp [here, Function.comp_def]

omit [Hosted W] in
theorem History.ofPool_append_here {p : PoolState W} (at_place : s.pools[move.place]? = some p) :
    History.ofPool (h ++ [(s, move)]) move.place =
      h.ofPool move.place ++ [(p, move.mover)] :=
  logged_append_here (fun p _ m => (p, m)) at_place

omit [Hosted W] in
theorem History.ofPool_append_elsewhere {i : Nat} (elsewhere : move.place ≠ i) :
    History.ofPool (h ++ [(s, move)]) i = h.ofPool i :=
  logged_append_elsewhere (fun p _ m => (p, m)) elsewhere

end Logged

/-- The runs from a state, with what happened in them. -/
inductive Trace (setting : Setting W) (start : RunState W) : History W → RunState W → Prop where
  | refl : Trace setting start [] start
  | step {h : History W} {s t : RunState W} (move : RunMove) :
    Trace setting start h s → s.step setting move = some t → Trace setting start (h ++ [(s, move)]) t

/-- A state that can be reached is the end of a run. -/
theorem Reachable.trace (h : Reachable setting start s) : ∃ past, Trace setting start past s := by
  induction h with
  | refl => exact ⟨[], .refl⟩
  | step move _ stepped ih =>
    obtain ⟨past, trace⟩ := ih
    exact ⟨_, trace.step move stepped⟩

theorem Trace.reachable {h : History W} (trace : Trace setting start h s) :
    Reachable setting start s := by
  induction trace with
  | refl => exact .refl
  | step move _ stepped ih => exact ih.step move stepped

/-- What is past was made in a state that can be reached. -/
theorem Trace.made {h : History W} (trace : Trace setting start h s) :
    ∀ u move, (u, move) ∈ h → Reachable setting start u ∧ ∃ v, u.step setting move = some v := by
  induction trace with
  | refl => exact nofun
  | step move earlier stepped ih =>
    intro u other known
    rcases List.mem_append.1 known with before | now
    · exact ih u other before
    · cases List.mem_singleton.1 now
      exact ⟨earlier.reachable, _, stepped⟩

theorem Reachable.trans (h : Reachable setting start s) (h' : Reachable setting s t) :
    Reachable setting start t := by
  induction h' with
  | refl => exact h
  | step move _ stepped ih => exact ih.step move stepped

/-- Makes moves one after the other, with what happens in them, if they all can be made. -/
def follow (setting : Setting W) : List RunMove → RunState W → Option (History W × RunState W)
  | [], s => some ([], s)
  | move :: rest, s => do
    let t ← s.step setting move
    let (h, u) ← follow setting rest t
    pure ((s, move) :: h, u)

/-- Moves that can be made after a run make it a longer one. -/
theorem Trace.follow {h h' : History W} {moves : List RunMove} (trace : Trace setting start h s)
    (followed : s.follow setting moves = some (h', t)) : Trace setting start (h ++ h') t := by
  induction moves generalizing s h h' with
  | nil =>
    cases followed
    simpa using trace
  | cons move rest ih =>
    obtain ⟨u, stepped, followed⟩ := Option.bind_eq_some_iff.1 followed
    obtain ⟨⟨h'', v⟩, followed, pair⟩ := Option.bind_eq_some_iff.1 followed
    cases pair
    rw [List.append_cons]
    exact ih (trace.step move stepped) followed

/-- Moves that lead to a state, if they can be made, lead to a state that a run can come to. -/
theorem exists_trace_of_follow (setting : Setting W) (start : RunState W) (moves : List RunMove)
    (test : History W × RunState W → Bool)
    (passes : (start.follow setting moves).any test = true) :
    ∃ past s, Trace setting start past s ∧ test (past, s) = true := by
  obtain ⟨⟨past, s⟩, followed, passes⟩ := (Option.any_eq_true _ _).1 passes
  exact ⟨past, s, Trace.refl.follow followed, passes⟩

/-- What bears that a run is called off bears that others go on with it. -/
theorem bear {Q : Bool → Prop} {before after : Bool} (calledOff : Q false → Q true)
    (stays : before = true → after = true) (h : Q before) : Q after := by
  cases before with
  | true => exact stays rfl ▸ h
  | false =>
    cases after with
    | true => exact calledOff h
    | false => exact h

/-- **Induction over runs.** A property of a pool, of what was seen of its moves, and of whether the run was
called off holds at the end of a run if it holds at the start, if every change in the pool keeps it, and
if it bears that the run is called off elsewhere. -/
theorem Trace.induct_logged {α : Type} (look : PoolState W → Common W → PoolMove → α) {i : Nat}
    (P : List α → PoolState W → Bool → Prop)
    (calledOff : ∀ log p, P log p false → P log p true)
    (change : ∀ log p c m p' c', P log p c.cancelled → PoolState.Change setting p c m p' c' →
      P (log ++ [look p c m]) p' c'.cancelled)
    {h : History W} (trace : Trace setting start h s) (tallied : start.Tallied)
    (init : ∀ p, start.pools[i]? = some p → P [] p start.common.cancelled) :
    ∀ p, s.pools[i]? = some p → P (h.logged look i) p s.common.cancelled := by
  induction trace with
  | refl => exact init
  | step move earlier stepped ih =>
    obtain ⟨q, q', c', at_place, changed, rfl⟩ :=
      step_eq_some (earlier.reachable.tallied_of_start tallied) stepped
    intro p at_i
    by_cases here : move.place = i
    · subst here
      have inside := (List.getElem?_eq_some_iff.1 at_place).1
      have same : q' = p := by simpa [put, List.getElem?_set_self inside] using at_i
      subst same
      rw [History.logged_append_here look at_place]
      exact change _ _ _ _ _ _ (ih q at_place) changed
    · -- All that another pool can do to this one is to call the run off.
      have before := (List.getElem?_set_ne here).symm.trans at_i
      rw [History.logged_append_elsewhere look here]
      exact bear (calledOff _ p) changed.cancelled (ih p before)

/-- Induction over runs with what is past in a pool. -/
theorem Trace.induct {i : Nat} (P : Past W → PoolState W → Bool → Prop)
    (calledOff : ∀ past p, P past p false → P past p true)
    (change : ∀ past p c m p' c', P past p c.cancelled → PoolState.Change setting p c m p' c' →
      P (past ++ [(p, m)]) p' c'.cancelled)
    {h : History W} (trace : Trace setting start h s) (tallied : start.Tallied)
    (init : ∀ p, start.pools[i]? = some p → P [] p start.common.cancelled) :
    ∀ p, s.pools[i]? = some p → P (h.ofPool i) p s.common.cancelled :=
  trace.induct_logged (fun p _ m => (p, m)) P calledOff change tallied init

/-- Induction over runs from their very beginning. -/
theorem Trace.induct_ofPlans_logged {α : Type} (look : PoolState W → Common W → PoolMove → α) {world : W}
    {quota i : Nat} {plans : List PoolPlan} (P : List α → PoolState W → Bool → Prop)
    (init : ∀ plan, plans[i]? = some plan → P [] (.ofPlan plan) false)
    (calledOff : ∀ log p, P log p false → P log p true)
    (change : ∀ log p c m p' c', P log p c.cancelled → PoolState.Change setting p c m p' c' →
      P (log ++ [look p c m]) p' c'.cancelled)
    {h : History W} (trace : Trace setting (ofPlans world quota plans) h s) {p : PoolState W}
    (at_i : s.pools[i]? = some p) :
    plans[i]? = some p.plan ∧ P (h.logged look i) p s.common.cancelled := by
  refine trace.induct_logged look (fun log p off => plans[i]? = some p.plan ∧ P log p off) ?_ ?_
    (tallied_ofPlans _ _ _) ?_ p at_i
  · exact fun log p known => ⟨known.1, calledOff log p known.2⟩
  · intro log p c m p' c' known changed
    exact ⟨changed.plan ▸ known.1, change log p c m p' c' known.2 changed⟩
  · intro p hp
    rw [ofPlans, List.getElem?_map, Option.map_eq_some_iff] at hp
    obtain ⟨plan, planned, rfl⟩ := hp
    exact ⟨planned, init plan planned⟩

/-- Induction over runs from their very beginning, with what is past in a pool. -/
theorem Trace.induct_ofPlans {world : W} {quota i : Nat} {plans : List PoolPlan}
    (P : Past W → PoolState W → Bool → Prop)
    (init : ∀ plan, plans[i]? = some plan → P [] (.ofPlan plan) false)
    (calledOff : ∀ past p, P past p false → P past p true)
    (change : ∀ past p c m p' c', P past p c.cancelled → PoolState.Change setting p c m p' c' →
      P (past ++ [(p, m)]) p' c'.cancelled)
    {h : History W} (trace : Trace setting (ofPlans world quota plans) h s) {p : PoolState W}
    (at_i : s.pools[i]? = some p) :
    plans[i]? = some p.plan ∧ P (h.ofPool i) p s.common.cancelled :=
  trace.induct_ofPlans_logged (fun p _ m => (p, m)) P init calledOff change at_i

end RunState

end TestFleet
