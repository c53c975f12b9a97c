import Mathlib.Algebra.GroupWithZero.Nat
import TestFleet.Proofs.Run.Termination
import TestFleet.Run.Execute
/-!
# Every run comes to its end

Every move brings a run nearer to its end: what it has still to do can be counted (`RunState.cost`),
and each move leaves less (`RunState.cost_of_step`). As long as a pool is not over somebody can move
(`RunState.Reachable.exists_step`): a worker that waits does so for an item in flight, and then
another worker is busy. So whoever moves when, a run comes to its end after finitely many moves, and
nowhere else (`RunState.Reachable.isOver_iff`). `play` runs every pool to its end
(`RunPlan.isCourse_play`), and it is one of the courses that a run can take.
-/
namespace TestFleet

variable {W : Type}

/-! ## What is still to do -/

/-- The most moves that a worker makes with an item from a stage on. The next attempt counts as long
as it is to be offered. -/
def Stage.cost : Stage → Nat
  | .attempting => 9
  | .deciding _ => 8
  | .offering .. => 17
  | .stashing _ => 6
  | .announcing _ rescued => if rescued then 4 else 5
  | .keeping _ => 3
  | .releasing _ | .crashing _ => 2

/-- The most moves that a worker makes with what it has in hand. -/
def Worker.cost (w : Worker W) : Nat :=
  match w.phase with
  | .starting => 5
  | .idle => 4
  | .busy _ stage => 4 + stage.cost
  | .cancelling _ => 3
  | .abandoning _ | .leaving => 2
  | .stopped _ => 1
  | .gone => 0

/-- The most moves that a pool makes itself from a phase on. -/
def PoolPhase.cost : PoolPhase → Nat
  | .planned => 6
  | .working => 5
  | .refused _ => 4
  | .accounting left _ => left.length + 2
  | .aborting .. | .closing _ => 1
  | .finished _ | .lost _ => 0

/-- The most moves that are made in a pool without further retries. -/
def PoolState.cost (p : PoolState W) : Nat :=
  p.phase.cost + 10 * p.queue.items.length + (p.workers.map Worker.cost).sum

/-- The most moves that a run makes. -/
def RunState.cost (s : RunState W) : Nat :=
  (s.pools.map PoolState.cost).sum + 12 * s.common.budget.remaining

/-- A sum over a list of which one element is replaced. -/
theorem sum_map_set {α : Type} {xs : List α} {i : Nat} {a b : α} (at_i : xs[i]? = some a)
    (f : α → Nat) : ((xs.set i b).map f).sum + f a = (xs.map f).sum + f b := by
  obtain ⟨others, before, after⟩ := exists_others_of_set at_i (b := b)
  have before := (before.map f).sum_nat
  have after := (after.map f).sum_nat
  rw [List.map_cons, List.sum_cons] at before after
  omega

section Steps

variable [Hosted W] {setting : Setting W}

/-! ## Every move leaves less to do -/

theorem StageChange.cost {ctx : AttemptContext} {s s' : Shared W} {stage stage' : Stage}
    (h : StageChange setting ctx s stage stage' s') :
    stage'.cost + 10 * s'.queue.items.length + 12 * s'.budget.remaining <
      stage.cost + 10 * s.queue.items.length + 12 * s.budget.remaining := by
  cases h with
  | retried retry =>
    obtain ⟨-, taken, -⟩ := WorkItem.retry?_eq_some_iff.1 retry
    unfold RetryBudget.take? at taken
    split at taken
    · cases taken
    · cases taken
      simp only [Stage.cost]
      omega
  | offered accepted =>
    obtain ⟨-, -, rfl⟩ := WorkQueue.offer_eq_ok_iff.1 accepted
    simp only [Stage.cost, List.length_append, List.length_singleton]
    omega
  | announced | settled | refused =>
    simp only [Stage.cost]
    split <;> omega
  | _ => simp [Stage.cost]

namespace Worker

variable {pool : PoolContext} {w w' : Worker W} {s s' : Shared W}

omit [Hosted W] in
theorem cost_start (setting : Setting W) (ctx : DeviceContext) (w : Worker W) (world : W) :
    (w.start setting ctx world).1.cost < 5 := by
  have excused := (excused_start setting ctx w world).1
  unfold Excused at excused
  unfold cost
  cases phase : (w.start setting ctx world).1.phase <;> simp_all

omit [Hosted W] in
theorem cost_abandon (ctx : DeviceContext) (e : PipelineError) (w : Worker W) (world : W) :
    (w.abandon ctx e world).1.cost = 1 := by
  unfold abandon
  split <;> rfl

omit [Hosted W] in
theorem cost_leave (ctx : DeviceContext) (w : Worker W) (world : W) :
    (w.leave ctx world).1.cost = 1 := by
  unfold leave
  split <;> rfl

theorem Change.cost (h : Change setting pool w s w' s') :
    w'.cost + 10 * s'.queue.items.length + 12 * s'.budget.remaining <
      w.cost + 10 * s.queue.items.length + 12 * s.budget.remaining := by
  cases h with
  | start phase =>
    have less := cost_start setting ⟨pool, w.device⟩ w s.world
    have before : w.cost = 5 := by simp only [Worker.cost, phase]
    dsimp only
    omega
  | claim phase claimed =>
    have taken := (WorkQueue.perm_of_claim? claimed).length_eq
    rw [List.length_cons] at taken
    simp only [Worker.cost, phase, at_, Stage.cost]
    omega
  | work phase change =>
    have less := change.cost
    simp only [Worker.cost, phase, at_]
    omega
  | abandon phase =>
    have before : w.cost = 2 := by simp only [Worker.cost, phase]
    rw [cost_abandon, before]
    dsimp only
    omega
  | leave phase =>
    have before : w.cost = 2 := by simp only [Worker.cost, phase]
    rw [cost_leave, before]
    dsimp only
    omega
  | expire phase | heed phase | quit phase | cancel phase =>
    simp [Worker.cost, phase, at_]
  | release phase released | violate phase released | crash phase released =>
    obtain ⟨-, same⟩ := WorkQueue.release?_eq_some_iff.1 released
    simp [Worker.cost, phase, at_, Stage.cost, same]

/-- An idle worker looks for an item. -/
theorem step_claim (idle : w.phase = .idle) :
    w.step setting pool .claim s = w.poll pool.run.config.run s := by
  unfold step
  simp only [idle]
  rfl

omit [Hosted W] in
/-- A worker that looks for an item finds nothing if its wait is not too long and none is for it. -/
theorem poll_eq_none_iff {settings : RunSettings} :
    w.poll settings s = none ↔ settings.pollTimeout.isBeyondClock = false ∧
      ∀ x ∈ s.queue.items, x.compatible w.device.id = false := by
  rw [← WorkQueue.claim?_eq_none_iff, ← Bool.not_eq_true]
  unfold poll
  split <;> simp_all

/-- An idle worker that no item can come for leaves, unless its wait is too long. -/
theorem step_quit (idle : w.phase = .idle) (within : pool.run.config.run.pollTimeout.isBeyondClock = false)
    (exhausted : s.queue.exhaustedFor w.device.id = true) :
    w.step setting pool .quit s = some (w.at_ .leaving, s) := by
  have done : w.isDone pool.run.config.run s = true := by
    rw [isDone, within, exhausted]
    rfl
  unfold step
  simp only [idle]
  exact if_pos done

end Worker

namespace PoolState

variable {p p' : PoolState W} {c c' : Common W} {m : PoolMove}

theorem Change.cost (h : Change setting p c m p' c') :
    p'.cost + 12 * c'.budget.remaining < p.cost + 12 * c.budget.remaining := by
  cases h with
  | start phase =>
    obtain ⟨rules, depth, next, eq, allowed⟩ :=
      start_eq setting ⟨setting.context, p.plan.pool⟩ p c.world
    have less : next.cost < p.phase.cost := by
      rw [phase]
      cases next <;> simp_all [PoolPhase.cost]
    rw [eq]
    simp only [PoolState.cost]
    omega
  | @abort e r phase =>
    rcases abort_eq ⟨setting.context, p.plan.pool⟩ e r p c.world with eq | ⟨m, eq⟩ <;>
      simp [eq, PoolState.cost, phase, at_, PoolPhase.cost]
  | @close r phase =>
    rcases close_eq ⟨setting.context, p.plan.pool⟩ r p c.world with ⟨o, eq⟩ | ⟨m, eq⟩ <;>
      simp [eq, PoolState.cost, phase, at_, PoolPhase.cost]
  | @account item left unreachable phase =>
    obtain ⟨r, collector, _, -, ⟨m, -, eq⟩ | ⟨count, eq⟩⟩ :=
      account_eq setting item left unreachable p c.world <;>
      simp [eq, PoolState.cost, phase, at_, PoolPhase.cost]
  | @worker j w w' s' phase at_j change =>
    have less := change.cost
    have others := sum_map_set (b := w') at_j Worker.cost
    simp only [PoolState.cost, withWorker, shared] at less ⊢
    omega
  | @join j w summary phase at_j stopped =>
    have others := sum_map_set (b := w.at_ .gone) at_j Worker.cost
    have before : w.cost = 1 := by simp only [Worker.cost, stopped]
    have after : (w.at_ .gone).cost = 0 := rfl
    simp only [PoolState.cost]
    omega
  | @joinFailed j w e phase at_j stopped =>
    have others := sum_map_set (b := w.at_ .gone) at_j Worker.cost
    have before : w.cost = 1 := by simp only [Worker.cost, stopped]
    have after : (w.at_ .gone).cost = 0 := rfl
    simp only [PoolState.cost]
    omega
  | drain phase | refuse phase | fail phase | conclude phase =>
    simp only [PoolState.cost, phase, at_, PoolPhase.cost, List.length_nil]
    omega

/-- Nothing changes in a pool that is over. -/
theorem Change.isOver_eq_false (h : Change setting p c m p' c') : p.isOver = false := by
  cases h with
  | _ phase => simp only [isOver, phase]

end PoolState

namespace RunState

variable {s t start : RunState W} {i j : Nat} {p : PoolState W} {w : Worker W}

/-- **Every move leaves less to do.** -/
theorem cost_of_step {move : RunMove} (tallied : s.Tallied) (h : s.step setting move = some t) :
    t.cost < s.cost := by
  obtain ⟨p, p', c', at_place, change, rfl⟩ := step_eq_some tallied h
  have less := change.cost
  have others := sum_map_set (b := p') at_place PoolState.cost
  simp only [RunState.cost, put]
  omega

/-- A run has no more moves than there were to make. -/
theorem Trace.length_add_cost_le {history : History W} (trace : Trace setting start history s)
    (tallied : start.Tallied) : history.length + s.cost ≤ start.cost := by
  induction trace with
  | refl => exact Nat.le_of_eq (Nat.zero_add _)
  | step move earlier stepped ih =>
    have less := cost_of_step (earlier.reachable.tallied_of_start tallied) stepped
    rw [List.length_append, List.length_singleton]
    omega

/-! ## Somebody can move -/

theorem step_pool_ne_none (at_i : s.pools[i]? = some p) (moves : p.step setting s.common ≠ none) :
    s.step setting (.pool i) ≠ none := by
  simpa [step, at_i] using moves

theorem step_worker_ne_none {move : WorkerMove} (at_i : s.pools[i]? = some p)
    (phase : p.phase = .working) (at_j : p.workers[j]? = some w)
    (moves : w.step setting ⟨setting.context, p.plan.pool⟩ move (p.shared s.common) ≠ none) :
    s.step setting (.worker i j move) ≠ none := by
  simpa [step, at_i, PoolState.stepWorker, phase, at_j, PoolState.shared] using moves

theorem step_join_ne_none {outcome : Except PipelineError DeviceSummary}
    (at_i : s.pools[i]? = some p) (phase : p.phase = .working) (at_j : p.workers[j]? = some w)
    (stopped : w.phase = .stopped outcome) : s.step setting (.join i j) ≠ none := by
  cases outcome <;> simp [step, at_i, PoolState.join, phase, at_j, stopped]

/-- A worker that is not idle can go on, or the pool can take note of its end. -/
theorem exists_step_of_worker (at_i : s.pools[i]? = some p) (phase : p.phase = .working)
    (at_j : p.workers[j]? = some w) (underway : w.phase ≠ .idle) (here : w.isGone = false) :
    ∃ move, s.step setting move ≠ none := by
  cases stage : w.phase with
  | idle => exact absurd stage underway
  | stopped outcome => exact ⟨_, step_join_ne_none at_i phase at_j stage⟩
  | gone => exact absurd (Worker.isGone_iff.2 stage) (by simp [here])
  | starting | busy | cancelling | abandoning | leaving =>
    refine ⟨.worker i j .proceed, step_worker_ne_none at_i phase at_j ?_⟩
    unfold Worker.step
    simp only [stage]
    nofun

/-- A worker waits for an item only while another is busy. -/
theorem exists_step_of_idle (tallied : p.Tallied) (at_i : s.pools[i]? = some p)
    (phase : p.phase = .working) (at_j : p.workers[j]? = some w) (idle : w.phase = .idle) :
    ∃ move, s.step setting move ≠ none := by
  by_cases polled : w.poll setting.context.config.run (p.shared s.common) = none
  · by_cases nothing : p.queue.inFlight = 0
    · obtain ⟨within, none⟩ := Worker.poll_eq_none_iff.1 polled
      have exhausted : p.queue.exhaustedFor w.device.id = true :=
        WorkQueue.exhaustedFor_iff.2 ⟨nothing, none⟩
      refine ⟨.worker i j .quit, step_worker_ne_none at_i phase at_j ?_⟩
      exact ne_of_eq_of_ne (Worker.step_quit idle within exhausted) nofun
    · rw [tallied, ← ne_eq, ← Nat.pos_iff_ne_zero, List.countP_pos_iff] at nothing
      obtain ⟨v, hv, busy⟩ := nothing
      obtain ⟨k, at_k⟩ := List.getElem?_of_mem hv
      refine exists_step_of_worker at_i phase at_k (fun idle => ?_) ?_
      · simp [Worker.isBusy, idle] at busy
      · unfold Worker.isBusy at busy
        unfold Worker.isGone
        cases stage : v.phase <;> simp_all
  · exact ⟨.worker i j .claim, step_worker_ne_none at_i phase at_j (Worker.step_claim idle ▸ polled)⟩

/-- **As long as a pool is not over somebody can move.** -/
theorem Reachable.exists_step {world : W} {quota : Nat} {plans : List PoolPlan}
    (reachable : Reachable setting (ofPlans world quota plans) s) (going : s.isOver = false) :
    ∃ move, s.step setting move ≠ none := by
  obtain ⟨p, hp, going⟩ := List.all_eq_false.1 going
  obtain ⟨i, at_i⟩ := List.getElem?_of_mem hp
  cases phase : p.phase with
  | finished | lost => simp [PoolState.isOver, phase] at going
  | planned | refused | aborting | closing =>
    exact ⟨.pool i, step_pool_ne_none at_i (by simp [PoolState.step, phase])⟩
  | accounting left unreachable =>
    refine ⟨.pool i, step_pool_ne_none at_i ?_⟩
    cases left <;> simp [PoolState.step, phase]
  | working =>
    by_cases gone : p.workers.all (·.isGone) = true
    · refine ⟨.pool i, step_pool_ne_none at_i ?_⟩
      simp only [PoolState.step, phase, gone, if_true]
      split <;> nofun
    · obtain ⟨w, hw, here⟩ := List.all_eq_false.1 (Bool.of_not_eq_true gone)
      obtain ⟨j, at_j⟩ := List.getElem?_of_mem hw
      by_cases idle : w.phase = .idle
      · exact exists_step_of_idle (reachable.settled at_i).tallied at_i phase at_j idle
      · exact exists_step_of_worker at_i phase at_j idle (Bool.of_not_eq_true here)

/-- **A run is over when nobody can move**, and not before. -/
theorem Reachable.isOver_iff {world : W} {quota : Nat} {plans : List PoolPlan}
    (reachable : Reachable setting (ofPlans world quota plans) s) :
    s.isOver = true ↔ ∀ move, s.step setting move = none := by
  constructor
  · intro ended move
    refine Option.eq_none_iff_forall_ne_some.2 fun t stepped => ?_
    obtain ⟨p, p', c', at_place, change, -⟩ := reachable.step_eq_some stepped
    have atEnd := List.all_eq_true.1 ended p (List.mem_of_getElem? at_place)
    rw [change.isOver_eq_false] at atEnd
    cases atEnd
  · intro stuck
    refine Bool.of_not_eq_false fun going => ?_
    obtain ⟨move, moves⟩ := reachable.exists_step going
    exact moves (stuck move)

/-! ## Turns and rounds -/

theorem tryMoves_eq_none_iff {moves : List RunMove} :
    tryMoves setting s moves = none ↔ ∀ m ∈ moves, s.step setting m = none := by
  induction moves with
  | nil => simp [tryMoves]
  | cons m rest ih =>
    unfold tryMoves
    cases first : s.step setting m with
    | some t => simp [first]
    | none => simp [first, ih]

theorem exists_of_tryMoves {moves : List RunMove} (h : tryMoves setting s moves = some t) :
    ∃ m, s.step setting m = some t := by
  induction moves with
  | nil => cases h
  | cons m rest ih =>
    unfold tryMoves at h
    cases first : s.step setting m with
    | some u =>
      rw [first] at h
      exact ⟨m, first.trans h⟩
    | none =>
      rw [first] at h
      exact ih h

/-- Whoever can move has a turn. -/
theorem exists_turn {m : RunMove} (tallied : s.Tallied) (moves : s.step setting m ≠ none) :
    ∃ turn ∈ s.turns, m ∈ turn := by
  obtain ⟨t, stepped⟩ := Option.ne_none_iff_exists'.1 moves
  have worker {i j : Nat} {p : PoolState W} {w : Worker W} (at_j : p.workers[j]? = some w) :
      workerMoves.map (.worker i j) ++ [.join i j] ∈ movesOf i p :=
    List.mem_cons_of_mem _
      (List.mem_map.2 ⟨j, List.mem_range.2 (List.getElem?_eq_some_iff.1 at_j).1, rfl⟩)
  obtain ⟨p, p', c', at_place, change, -⟩ := step_eq_some tallied stepped
  have here : (m.place, p) ∈ (List.range s.pools.length).zip s.pools := by
    obtain ⟨inside, same⟩ := List.getElem?_eq_some_iff.1 at_place
    refine List.mem_iff_getElem.2 ⟨m.place, by simpa using inside, ?_⟩
    simp [same]
  have turn {moves : List RunMove} (own : moves ∈ movesOf m.place p) : moves ∈ s.turns :=
    List.mem_flatMap.2 ⟨_, here, own⟩
  cases m with
  | pool i => exact ⟨_, turn List.mem_cons_self, List.mem_cons_self⟩
  | worker i j move =>
    cases change with
    | worker phase at_j change =>
      refine ⟨_, turn (worker at_j), List.mem_append_left _ (List.mem_map_of_mem ?_)⟩
      cases move <;> decide
  | join i j =>
    cases change with
    | join phase at_j stopped | joinFailed phase at_j stopped =>
      exact ⟨_, turn (worker at_j), List.mem_append_right _ List.mem_cons_self⟩

/-- One turn of `sweep`. -/
def takeTurn (setting : Setting W) (so : RunState W × Bool) (turn : List RunMove) :
    RunState W × Bool :=
  match tryMoves setting so.1 turn with
  | some t => (t, true)
  | none => so

theorem sweep_eq (turns : List (List RunMove)) :
    s.sweep setting turns = turns.foldl (takeTurn setting) (s, false) := rfl

/-- After several turns there is less to do, or nobody could move. -/
theorem foldl_takeTurn (setting : Setting W) (turns : List (List RunMove)) {s : RunState W}
    (tallied : s.Tallied) (before : Bool) :
    ∃ t after, turns.foldl (takeTurn setting) (s, before) = (t, after) ∧ Reachable setting s t ∧
      (after = true ∧ t.cost < s.cost ∨
        after = before ∧ t = s ∧ ∀ turn ∈ turns, ∀ m ∈ turn, s.step setting m = none) := by
  induction turns generalizing s before with
  | nil => exact ⟨s, before, rfl, .refl, .inr ⟨rfl, rfl, nofun⟩⟩
  | cons turn rest ih =>
    rw [List.foldl_cons, takeTurn]
    cases tried : tryMoves setting s turn with
    | none =>
      obtain ⟨t, after, eq, reachable, less | ⟨same, rfl, stuck⟩⟩ := ih tallied before
      · exact ⟨t, after, eq, reachable, .inl less⟩
      · exact ⟨t, after, eq, reachable, .inr ⟨same, rfl,
          List.forall_mem_cons.2 ⟨tryMoves_eq_none_iff.1 tried, stuck⟩⟩⟩
    | some u =>
      obtain ⟨m, stepped⟩ := exists_of_tryMoves tried
      have first := cost_of_step tallied stepped
      have further : Reachable setting s u := Reachable.refl.step m stepped
      obtain ⟨t, after, eq, reachable, ⟨any, less⟩ | ⟨same, rfl, -⟩⟩ :=
        ih (tallied_of_step tallied stepped) true
      · exact ⟨t, after, eq, further.trans reachable, .inl ⟨any, Nat.lt_trans less first⟩⟩
      · exact ⟨t, after, eq, further.trans reachable, .inl ⟨same, first⟩⟩

/-- Rounds that are as many as there are moves to make lead to the end. -/
theorem rounds_spec {world : W} {quota : Nat} {plans : List PoolPlan} (n : Nat) (s : RunState W)
    (reachable : Reachable setting (ofPlans world quota plans) s) (enough : s.cost < n) :
    Reachable setting (ofPlans world quota plans) (s.rounds setting n) ∧
      (s.rounds setting n).isOver = true := by
  induction n generalizing s with
  | zero => cases enough
  | succ n ih =>
    obtain ⟨t, moved, eq, further, ⟨rfl, less⟩ | ⟨rfl, rfl, stuck⟩⟩ :=
      foldl_takeTurn setting s.turns reachable.tallied false
    · rw [rounds, sweep_eq, eq]
      exact ih t (reachable.trans further) (by omega)
    · rw [rounds, sweep_eq, eq]
      refine ⟨reachable, reachable.isOver_iff.2 fun m => by_contra fun moves => ?_⟩
      obtain ⟨turn, hturn, hm⟩ := exists_turn reachable.tallied moves
      exact moves (stuck turn hturn m hm)

omit [Hosted W] in
theorem cost_ofPlans_lt (world : W) (quota : Nat) (plans : List PoolPlan) :
    (ofPlans world quota plans).cost < (ofPlans world quota plans).enoughRounds := by
  have each : ((ofPlans world quota plans).pools.map PoolState.cost).sum ≤
      12 * (((ofPlans world quota plans).pools.flatMap (·.plan.items)).length +
        ((ofPlans world quota plans).pools.flatMap (·.workers)).length +
        (ofPlans world quota plans).pools.length) := by
    unfold ofPlans
    induction plans with
    | nil => exact Nat.le_refl 0
    | cons plan rest ih =>
      have first : (PoolState.ofPlan (W := W) plan).cost ≤
          6 + 10 * plan.items.length + 5 * plan.pool.devices.length := by
        have kept := (WorkQueue.firsts_sublist plan.items).length_le
        have workers : ((PoolState.ofPlan (W := W) plan).workers.map Worker.cost).sum =
            5 * plan.pool.devices.length := by
          have same : Worker.cost ∘ Worker.ofDevice (W := W) = fun _ => 5 := rfl
          rw [PoolState.ofPlan, List.map_map, same, List.map_const', List.sum_replicate_nat]
          exact Nat.mul_comm _ _
        have phase : (PoolState.ofPlan (W := W) plan).phase.cost = 6 := rfl
        have queued : (PoolState.ofPlan (W := W) plan).queue.items = WorkQueue.firsts plan.items := rfl
        rw [PoolState.cost, workers, phase, queued]
        omega
      have items : (PoolState.ofPlan (W := W) plan).plan.items.length = plan.items.length := rfl
      have workers : (PoolState.ofPlan (W := W) plan).workers.length = plan.pool.devices.length := by
        simp [PoolState.ofPlan]
      simp only [List.map_cons, List.sum_cons, List.flatMap_cons, List.length_append,
        List.length_cons] at ih ⊢
      omega
  have remaining : (ofPlans world quota plans).common.budget.remaining = quota := rfl
  have total : (ofPlans world quota plans).common.budget.total = quota := rfl
  simp only [RunState.cost, enoughRounds, remaining, total]
  omega

end RunState

/-! ## Executions -/

namespace RunPlan

variable {plan : RunPlan W} {registry : Registry W} {reporter : Reporter W}

/-- A course that the pools of a plan can take: one that a run can come to, to the end. -/
def IsCourse (setting : Setting W) (plans : List PoolPlan) (course : RunState W → RunState W) :
    Prop :=
  ∀ world, let start := RunState.ofPlans world setting.retry.total plans
    RunState.Reachable setting start (course start) ∧ (course start).isOver = true

/-- The turns that `play` gives are one course that the pools can take. -/
theorem isCourse_play (setting : Setting W) (plans : List PoolPlan) :
    IsCourse setting plans (RunState.play setting) := fun _ =>
  RunState.rounds_spec _ _ .refl (RunState.cost_ofPlans_lt _ _ _)

theorem execute_eq (plan : RunPlan W) (registry : Registry W) (reporter : Reporter W) :
    plan.execute registry reporter =
      plan.executeBy (RunState.play (plan.setting registry reporter)) registry reporter := rfl

end RunPlan

end Steps

end TestFleet
