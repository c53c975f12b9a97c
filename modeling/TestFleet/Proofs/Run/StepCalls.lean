import TestFleet.Proofs.Run.Calls
import TestFleet.Proofs.Run.Termination
/-!
# What is called in a step

Every step of a worker or of a pool makes its calls at one place: it enters a scope, unwinds it, or makes
an attempt (`Worker.Change.exists_calls`, `PoolState.Change.exists_calls`). If something of another
identity is given there, the worker and then the pool have an error that ends the run
(`Worker.isDoomed`, `PoolState.isDoomed`).
-/
namespace TestFleet

variable {W : Type} [Hosted W] {setting : Setting W} {plans : List PoolPlan}

/-! ## Workers -/

namespace Worker

/-- Whether the worker looks for an item or holds one. -/
def takesWork (w : Worker W) : Bool :=
  match w.phase with
  | .idle | .busy .. => true
  | _ => false

/-- How many attempts the worker has made. -/
def attemptsMade (w : Worker W) : Nat :=
  match w.phase with
  | .busy _ .attempting => w.executed
  | .busy .. => w.executed + 1
  | _ => w.executed

/-- Whether the worker has an error that ends the run. -/
def isDoomed (w : Worker W) : Bool :=
  match w.phase with
  | .busy _ (.releasing (some _)) | .cancelling _ | .abandoning _ | .stopped (.error _) => true
  | _ => false

/-- Whether the worker has its rules, some of which may be entered. -/
def isUnderway (w : Worker W) : Bool :=
  match w.phase with
  | .starting | .stopped _ | .gone => false
  | _ => true

/-- A worker that is underway has the rules of its device, and no panic leaves it. -/
structure Manned (setting : Setting W) (pool : PoolContext) (w : Worker W) : Prop where
  built : w.isUnderway = true → setting.registry.rulesOfDevice ⟨pool, w.device⟩ = .done w.rules
  within : w.depth ≤ w.rules.length
  sane : ∀ item m, w.phase ≠ .busy item (.crashing m)

/-- What a step of a worker calls, with what becomes of the worker. -/
inductive Shows (setting : Setting W) (i j : Nat) (w w' : Worker W) : List Call → Prop where
  /-- The rules of the device cannot be built. -/
  | unbuilt {summary : DeviceSummary} (phase : w.phase = .starting)
    (phase' : w'.phase = .stopped (.ok summary)) : Shows setting i j w w' []
  /-- The rules of the device are entered. -/
  | enter {full : Bool} {calls : List Call} (phase : w.phase = .starting)
    (events : calls.map Call.event = (Place.device i j).events (Pipeline.entering w'.depth full))
    (next : full = true ∧ w'.phase = .idle ∨ full = false ∧ w'.phase = .leaving) :
    Shows setting i j w w' calls
  /-- A wait that leads past the end of the clock is a panic. -/
  | expire {outcome : Except PipelineError DeviceSummary} (phase : w.phase = .idle)
    (beyond : setting.context.config.run.pollTimeout.isBeyondClock = true)
    (phase' : w'.phase = .stopped outcome) : Shows setting i j w w' []
  /-- An attempt is made. -/
  | attempt {item : WorkItem} {stage' : Stage} {started : Time.Moment} {calls : List Call}
    (phase : w.phase = .busy item .attempting) (stays : w' = w.at_ (.busy item stage'))
    (made : w'.attemptsMade = w.executed + 1)
    (within : ∀ e ∈ calls.map Call.event,
      e.isWithin (.attempt i j w.executed item started) = true)
    (bracketed : setting.context.config.run.answerLimit.overflows = false →
      Bracketed (.attempt i j w.executed item started) (calls.map Call.event)) :
    Shows setting i j w w' calls
  /-- The rules of the device are left. -/
  | leave {outcome : Except PipelineError DeviceSummary} {calls : List Call}
    (phase : w.phase = .leaving ∨ ∃ e, w.phase = .abandoning e)
    (phase' : w'.phase = .stopped outcome)
    (events : calls.map Call.event = (Place.device i j).events (Pipeline.leaving w.depth)) :
    Shows setting i j w w' calls
  | other {calls : List Call} (underway : w.isUnderway = true) (underway' : w'.isUnderway = true)
    (depth : w'.depth = w.depth) (told : OnlyTold calls)
    (takes : w'.takesWork = true → w.takesWork = true ∧ w'.attemptsMade = w.attemptsMade) :
    Shows setting i j w w' calls

variable {plan : PoolPlan} {i j : Nat} {w w' : Worker W} {s s' : Shared W}

theorem path_start (calm : setting.registry.IsCalm) (planned : plans[i]? = some plan)
    (listed : plan.pool.devices[j]? = some w.device) (phase : w.phase = .starting)
    (manned : w.Manned setting ⟨setting.context, plan.pool⟩) (world : W) :
    ∃ w' v calls, w.start setting ⟨⟨setting.context, plan.pool⟩, w.device⟩ world = (w', v) ∧
      Path (Call.Made setting plans) world calls v ∧ Shows setting i j w w' calls ∧
      ¬ AnyForeign calls ∧ w'.Manned setting ⟨setting.context, plan.pool⟩ := by
  unfold start
  cases built : setting.registry.rulesOfDevice ⟨⟨setting.context, plan.pool⟩, w.device⟩ with
  | failed e =>
    exact ⟨_, world, [], rfl, .nil, .unbuilt phase rfl, not_anyForeign_nil, nofun, manned.within,
      nofun⟩
  | panicked m =>
    exact ⟨_, world, [], rfl, .nil, .unbuilt phase rfl, not_anyForeign_nil, nofun, manned.within,
      nofun⟩
  | done rules =>
    have hosts : (Place.device i j).Hosts setting plans ⟨.device, rules⟩
        ⟨⟨setting.context, plan.pool⟩, w.device⟩ := fun _ _ _ => .ofDevice planned listed built
    obtain ⟨entered, v, calls, enter, within, path, events, native⟩ :=
      Place.path_enter hosts (calm.device _ rules built) world
    dsimp only [pipeline]
    rw [enter]
    dsimp only
    cases failure : entered.failure with
    | some e =>
      rw [failure] at events
      exact ⟨_, v, calls, rfl, path, .enter phase events (.inr ⟨rfl, rfl⟩), native,
        fun _ => built, within, fun _ _ => nofun⟩
    | none =>
      rw [failure] at events
      exact ⟨_, v, calls, rfl, path, .enter phase events (.inl ⟨rfl, rfl⟩), native, fun _ => built,
        within, fun _ _ => nofun⟩

theorem path_abandon {e : PipelineError} (calm : setting.registry.IsCalm)
    (planned : plans[i]? = some plan) (listed : plan.pool.devices[j]? = some w.device)
    (phase : w.phase = .abandoning e) (manned : w.Manned setting ⟨setting.context, plan.pool⟩)
    (world : W) :
    ∃ w' v calls, w.abandon ⟨⟨setting.context, plan.pool⟩, w.device⟩ e world = (w', v) ∧
      Path (Call.Made setting plans) world calls v ∧ Shows setting i j w w' calls ∧
      w'.isDoomed = true ∧ w'.Manned setting ⟨setting.context, plan.pool⟩ := by
  have built := manned.built (by simp only [isUnderway, phase])
  have hosts : (Place.device i j).Hosts setting plans w.pipeline
      ⟨⟨setting.context, plan.pool⟩, w.device⟩ := fun _ _ _ => .ofDevice planned listed built
  obtain ⟨v, calls, released, path, events⟩ := Place.path_release (ε := Empty) hosts
    (calm.device _ _ built) w.summary manned.within world
  unfold abandon
  rw [released]
  exact ⟨_, v, calls, rfl, path, .leave (.inr ⟨e, phase⟩) rfl events, rfl, nofun, manned.within,
    fun _ _ => nofun⟩

/-- A worker whose rules change the identity of its summary as they are left has an error. -/
theorem path_leave (calm : setting.registry.IsCalm) (planned : plans[i]? = some plan)
    (listed : plan.pool.devices[j]? = some w.device) (phase : w.phase = .leaving)
    (manned : w.Manned setting ⟨setting.context, plan.pool⟩) (world : W) :
    ∃ w' v calls, w.leave ⟨⟨setting.context, plan.pool⟩, w.device⟩ world = (w', v) ∧
      Path (Call.Made setting plans) world calls v ∧ Shows setting i j w w' calls ∧
      (AnyForeign calls → w'.isDoomed = true) ∧
      w'.Manned setting ⟨setting.context, plan.pool⟩ := by
  have built := manned.built (by simp only [isUnderway, phase])
  have hosts : (Place.device i j).Hosts setting plans w.pipeline
      ⟨⟨setting.context, plan.pool⟩, w.device⟩ := fun _ _ _ => .ofDevice planned listed built
  obtain ⟨o, v, calls, unwound, quiet, path, events, changed⟩ :=
    Place.path_unwind hosts (calm.device _ _ built) w.summary manned.within world
  unfold leave
  rw [unwound]
  cases o with
  | done r =>
    refine ⟨_, v, calls, rfl, path, .leave (.inl phase) rfl events, fun foreign => ?_, nofun,
      manned.within, fun _ _ => nofun⟩
    obtain ⟨e, failed⟩ := changed foreign
    cases failed
  | failed e =>
    exact ⟨_, v, calls, rfl, path, .leave (.inl phase) rfl events, fun _ => rfl, nofun,
      manned.within, fun _ _ => nofun⟩
  | panicked m => exact absurd rfl (quiet m)

omit [Hosted W] in
theorem Manned.at_ {pool : PoolContext} (manned : w.Manned setting pool)
    (underway : w.isUnderway = true) {phase : WorkerPhase}
    (sane : ∀ item m, phase ≠ .busy item (.crashing m)) : (w.at_ phase).Manned setting pool :=
  ⟨fun _ => manned.built underway, manned.within, sane⟩

/-- What a step of a worker does to the world is done by calls, and if something of another identity
is given the worker has an error that ends the run. -/
theorem Change.exists_calls (calm : setting.registry.IsCalm) (told : setting.reporter.IsCalm)
    (planned : plans[i]? = some plan) (listed : plan.pool.devices[j]? = some w.device)
    (manned : w.Manned setting ⟨setting.context, plan.pool⟩)
    (h : Change setting ⟨setting.context, plan.pool⟩ w s w' s') :
    ∃ calls, Path (Call.Made setting plans) s.world calls s'.world ∧ Shows setting i j w w' calls ∧
      (w.isDoomed = true ∨ AnyForeign calls → w'.isDoomed = true) ∧
      w'.Manned setting ⟨setting.context, plan.pool⟩ := by
  -- Steps in which nobody is called.
  have silent {w' : Worker W} (underway : w.isUnderway = true) (underway' : w'.isUnderway = true)
      (depth : w'.depth = w.depth)
      (takes : w'.takesWork = true → w.takesWork = true ∧ w'.attemptsMade = w.attemptsMade)
      (fatal : w.isDoomed = true → w'.isDoomed = true)
      (manned : w'.Manned setting ⟨setting.context, plan.pool⟩) :
      ∃ calls, Path (Call.Made setting plans) s.world calls s.world ∧ Shows setting i j w w' calls ∧
        (w.isDoomed = true ∨ AnyForeign calls → w'.isDoomed = true) ∧
        w'.Manned setting ⟨setting.context, plan.pool⟩ :=
    ⟨[], .nil, .other underway underway' depth nofun takes,
      fun foreign => fatal (foreign.resolve_right not_anyForeign_nil), manned⟩
  cases h with
  | start phase =>
    obtain ⟨w', v, calls, eq, path, shows, native, manned⟩ :=
      path_start calm planned listed phase manned s.world
    rw [eq]
    refine ⟨calls, path, shows, fun foreign => absurd foreign ?_, manned⟩
    simp [isDoomed, phase, native]
  | expire phase beyond =>
    refine ⟨[], .nil, .expire phase beyond rfl, fun foreign => absurd foreign ?_, nofun,
      manned.within, fun _ _ => nofun⟩
    simp [isDoomed, phase, not_anyForeign_nil]
  | claim phase claimed =>
    have underway : w.isUnderway = true := by simp only [isUnderway, phase]
    refine silent underway rfl rfl (fun _ => ?_) ?_ (manned.at_ underway nofun)
    · simp [takesWork, attemptsMade, phase, at_]
    · simp [isDoomed, phase]
  | heed phase | quit phase =>
    have underway : w.isUnderway = true := by simp only [isUnderway, phase]
    refine silent underway rfl rfl nofun ?_ (manned.at_ underway nofun)
    simp [isDoomed, phase]
  | @work item stage stage' s' phase change =>
    have underway : w.isUnderway = true := by simp only [isUnderway, phase]
    cases change with
    | attempted run | violated run | rescued run =>
      obtain ⟨o, v, calls, eq, path, failing, within, bracketed⟩ :=
        AttemptContext.path_run calm planned listed rfl w.executed s.world
      obtain ⟨rfl, rfl⟩ := Prod.mk.inj (eq.symm.trans run)
      refine ⟨calls, path, .attempt phase rfl rfl within bracketed, fun foreign => ?_,
        manned.at_ underway nofun⟩
      obtain ⟨e, failed⟩ := failing (foreign.resolve_left (by simp [isDoomed, phase]))
      first | rfl | cases failed
    | retried | settled | offered | refused | stashed | kept =>
      refine silent underway rfl rfl (fun _ => ?_) ?_ (manned.at_ underway nofun)
      · simp [takesWork, attemptsMade, phase, at_]
      · simp [isDoomed, phase]
    | @announced r rescued world said =>
      subst said
      have only : OnlyTold [⟨.told, false⟩] := by simp [OnlyTold]
      refine ⟨_, .single (.ofReporter (.tested r)), .other underway rfl rfl only fun _ => ?_,
        fun foreign => absurd foreign ?_, manned.at_ underway nofun⟩
      · simp [takesWork, attemptsMade, phase, at_]
      · simp [isDoomed, phase, only.not_anyForeign]
    | @interrupted r m world panicked | @crashed r m world panicked =>
      exact absurd (congrArg Prod.fst panicked) (told.tested r s.world m)
  | release phase =>
    have underway : w.isUnderway = true := by simp only [isUnderway, phase]
    refine silent underway rfl rfl (fun _ => ?_) ?_
      ⟨fun _ => manned.built underway, manned.within, nofun⟩
    · simp [takesWork, attemptsMade, phase, at_]
    · simp [isDoomed, phase]
  | violate phase =>
    have underway : w.isUnderway = true := by simp only [isUnderway, phase]
    exact silent underway rfl rfl nofun (fun _ => rfl)
      ⟨fun _ => manned.built underway, manned.within, nofun⟩
  | crash phase => exact absurd phase (manned.sane _ _)
  | cancel phase =>
    have underway : w.isUnderway = true := by simp only [isUnderway, phase]
    exact silent underway rfl rfl nofun (fun _ => rfl) (manned.at_ underway nofun)
  | @abandon e phase =>
    obtain ⟨w', v, calls, eq, path, shows, failing, manned⟩ :=
      path_abandon calm planned listed phase manned s.world
    rw [eq]
    exact ⟨calls, path, shows, fun _ => failing, manned⟩
  | leave phase =>
    obtain ⟨w', v, calls, eq, path, shows, failing, manned⟩ :=
      path_leave calm planned listed phase manned s.world
    have fresh : w.isDoomed = false := by simp only [isDoomed, phase]
    rw [eq]
    exact ⟨calls, path, shows, fun foreign => failing (foreign.resolve_left (by simp [fresh])), manned⟩

end Worker

/-! ## Pools -/

namespace PoolState

/-- Whether the pool has its rules, some of which may be entered. -/
def isUnderway (p : PoolState W) : Bool :=
  match p.phase with
  | .planned | .finished _ | .lost _ => false
  | _ => true

/-- Whether the workers of the pool are at work. -/
def isWorking (p : PoolState W) : Bool :=
  match p.phase with
  | .working => true
  | _ => false

/-- Whether the pool, or a worker of it, has an error that ends the run. -/
def isDoomed (p : PoolState W) : Bool :=
  match p.phase with
  | .working => p.fatal.isSome || p.workers.any (·.isDoomed)
  | .refused _ | .aborting .. | .finished (.error _) => true
  | _ => false

/-- A pool that is underway has its rules, and its workers have those of their devices. -/
structure Manned (setting : Setting W) (p : PoolState W) : Prop where
  built : p.isUnderway = true →
    setting.registry.rulesOfPool ⟨setting.context, p.plan.pool⟩ = .done p.rules
  within : p.depth ≤ p.rules.length
  crew : ∀ w ∈ p.workers, w.Manned setting ⟨setting.context, p.plan.pool⟩

/-- What a step of a pool calls, with what becomes of the pool. -/
inductive Shows (setting : Setting W) (i : Nat) (p p' : PoolState W) : List Call → Prop where
  /-- The rules of the pool cannot be built. -/
  | unbuilt (phase : p.phase = .planned) (ended : p'.isOver = true) (workers : p'.workers = p.workers) :
    Shows setting i p p' []
  /-- The rules of the pool are entered. -/
  | enter {full : Bool} {calls : List Call} (phase : p.phase = .planned)
    (workers : p'.workers = p.workers)
    (events : calls.map Call.event = (Place.pool i).events (Pipeline.entering p'.depth full))
    (underway' : p'.isUnderway = true) (next : p'.isWorking = full) : Shows setting i p p' calls
  /-- The rules of the pool are left. -/
  | leave {calls : List Call} (underway : p.isUnderway = true) (idle : p.isWorking = false)
    (ended : p'.isOver = true) (workers : p'.workers = p.workers)
    (events : calls.map Call.event = (Place.pool i).events (Pipeline.leaving p.depth)) :
    Shows setting i p p' calls
  | other {calls : List Call} (underway : p.isUnderway = true) (underway' : p'.isUnderway = true)
    (idle : p'.isWorking = false) (workers : p'.workers = p.workers) (depth : p'.depth = p.depth)
    (gone : p.isWorking = true → ∀ w ∈ p.workers, w.isGone = true) (told : OnlyTold calls) :
    Shows setting i p p' calls
  | worker {j : Nat} {w w' : Worker W} {calls : List Call} (working : p.isWorking = true)
    (working' : p'.isWorking = true) (at_j : p.workers[j]? = some w)
    (workers : p'.workers = p.workers.set j w') (depth : p'.depth = p.depth)
    (shows : w.Shows setting i j w' calls) : Shows setting i p p' calls
  /-- The pool takes note that a worker has stopped. -/
  | join {j : Nat} {w : Worker W} {outcome : Except PipelineError DeviceSummary}
    (working : p.isWorking = true) (working' : p'.isWorking = true) (at_j : p.workers[j]? = some w)
    (stopped : w.phase = .stopped outcome) (workers : p'.workers = p.workers.set j (w.at_ .gone))
    (depth : p'.depth = p.depth) : Shows setting i p p' []

variable {i : Nat} {p p' : PoolState W} {c c' : Common W} {m : PoolMove}

omit [Hosted W] in
theorem isDoomed_of_working (phase : p.phase = .working) :
    p.isDoomed = true ↔ p.fatal.isSome = true ∨ ∃ w ∈ p.workers, w.isDoomed = true := by
  simp only [isDoomed, phase, Bool.or_eq_true, List.any_eq_true]

theorem path_start (calm : setting.registry.IsCalm) (planned : plans[i]? = some p.plan)
    (phase : p.phase = .planned) (manned : p.Manned setting) (world : W) :
    ∃ p' v calls, p.start setting ⟨setting.context, p.plan.pool⟩ world = (p', v) ∧
      Path (Call.Made setting plans) world calls v ∧ Shows setting i p p' calls ∧
      ¬ AnyForeign calls ∧ p'.Manned setting := by
  unfold start
  cases built : setting.registry.rulesOfPool ⟨setting.context, p.plan.pool⟩ with
  | failed e =>
    exact ⟨_, world, [], rfl, .nil, .unbuilt phase rfl rfl, not_anyForeign_nil, nofun, manned.within,
      manned.crew⟩
  | panicked m =>
    exact ⟨_, world, [], rfl, .nil, .unbuilt phase rfl rfl, not_anyForeign_nil, nofun, manned.within,
      manned.crew⟩
  | done rules =>
    have hosts : (Place.pool i).Hosts setting plans ⟨.pool, rules⟩
        ⟨setting.context, p.plan.pool⟩ := fun _ _ _ => .ofPool planned built
    obtain ⟨entered, v, calls, enter, within, path, events, native⟩ :=
      Place.path_enter hosts (calm.pool _ rules built) world
    dsimp only [pipeline]
    rw [enter]
    dsimp only
    cases failure : entered.failure with
    | some e =>
      rw [failure] at events
      exact ⟨_, v, calls, rfl, path, .enter phase rfl events rfl rfl, native, fun _ => built, within,
        manned.crew⟩
    | none =>
      rw [failure] at events
      exact ⟨_, v, calls, rfl, path, .enter phase rfl events rfl rfl, native, fun _ => built, within,
        manned.crew⟩

theorem path_abort {e : RunError} {r : PoolResult} (calm : setting.registry.IsCalm)
    (planned : plans[i]? = some p.plan) (phase : p.phase = .aborting e r) (manned : p.Manned setting)
    (world : W) :
    ∃ p' v calls, p.abort ⟨setting.context, p.plan.pool⟩ e r world = (p', v) ∧
      Path (Call.Made setting plans) world calls v ∧ Shows setting i p p' calls ∧
      p'.isDoomed = true ∧ p'.Manned setting := by
  have built := manned.built (by simp only [isUnderway, phase])
  have hosts : (Place.pool i).Hosts setting plans p.pipeline ⟨setting.context, p.plan.pool⟩ :=
    fun _ _ _ => .ofPool planned built
  obtain ⟨v, calls, released, path, events⟩ := Place.path_release (ε := Empty) hosts
    (calm.pool _ _ built) r manned.within world
  have underway : p.isUnderway = true := by simp only [isUnderway, phase]
  have idle : p.isWorking = false := by simp only [isWorking, phase]
  unfold abort
  rw [released]
  exact ⟨_, v, calls, rfl, path, .leave underway idle rfl rfl events, rfl, nofun, manned.within,
    manned.crew⟩

/-- Nobody is called for an item that is left but the reporter. -/
theorem path_account {item : WorkItem} {left : List WorkItem} {unreachable : Nat}
    (told : setting.reporter.IsCalm) (phase : p.phase = .accounting (item :: left) unreachable)
    (manned : p.Manned setting) (world : W) :
    ∃ p' v calls, p.account setting item left unreachable world = (p', v) ∧
      Path (Call.Made setting plans) world calls v ∧ Shows setting i p p' calls ∧
      ¬ AnyForeign calls ∧ p'.Manned setting := by
  have underway : p.isUnderway = true := by simp only [isUnderway, phase]
  have idle : p.isWorking = false := by simp only [isWorking, phase]
  unfold account
  obtain ⟨r, collector, isUnreachable⟩ := p.settleLeft item (Hosted.now world)
  have only : OnlyTold [⟨.told, false⟩] := by simp [OnlyTold]
  have path : Path (Call.Made setting plans) world _ (setting.reporter.tested r world).2 :=
    .single (.ofReporter (.tested r))
  rcases said : setting.reporter.tested r world with ⟨_ | _ | m, v⟩
  · rw [said] at path
    dsimp only
    rw [said]
    refine ⟨_, v, _, rfl, path, .other underway rfl rfl rfl rfl ?_ only, only.not_anyForeign,
      fun _ => manned.built underway, manned.within, manned.crew⟩
    simp [idle]
  · contradiction
  · exact absurd (congrArg Prod.fst said) (told.tested r world m)

/-- A pool whose rules change the identity of its result as they are left has an error. -/
theorem path_close {r : PoolResult} (calm : setting.registry.IsCalm)
    (planned : plans[i]? = some p.plan) (phase : p.phase = .closing r) (manned : p.Manned setting)
    (world : W) :
    ∃ p' v calls, p.close ⟨setting.context, p.plan.pool⟩ r world = (p', v) ∧
      Path (Call.Made setting plans) world calls v ∧ Shows setting i p p' calls ∧
      (AnyForeign calls → p'.isDoomed = true) ∧ p'.Manned setting := by
  have built := manned.built (by simp only [isUnderway, phase])
  have hosts : (Place.pool i).Hosts setting plans p.pipeline ⟨setting.context, p.plan.pool⟩ :=
    fun _ _ _ => .ofPool planned built
  obtain ⟨o, v, calls, unwound, quiet, path, events, changed⟩ :=
    Place.path_unwind hosts (calm.pool _ _ built) r manned.within world
  have underway : p.isUnderway = true := by simp only [isUnderway, phase]
  have idle : p.isWorking = false := by simp only [isWorking, phase]
  unfold close
  rw [unwound]
  cases o with
  | done r =>
    refine ⟨_, v, calls, rfl, path, .leave underway idle rfl rfl events, fun foreign => ?_, nofun,
      manned.within, manned.crew⟩
    obtain ⟨e, failed⟩ := changed foreign
    cases failed
  | failed e =>
    exact ⟨_, v, calls, rfl, path, .leave underway idle rfl rfl events, fun _ => rfl, nofun,
      manned.within, manned.crew⟩
  | panicked m => exact absurd rfl (quiet m)

omit [Hosted W] in
/-- As one worker changes the others keep what they have. -/
theorem Manned.set {j : Nat} {w' : Worker W} (manned : p.Manned setting) (phase : p.phase = .working)
    (plan : p'.plan = p.plan) (rules : p'.rules = p.rules) (depth : p'.depth = p.depth)
    (workers : p'.workers = p.workers.set j w')
    (worker : w'.Manned setting ⟨setting.context, p.plan.pool⟩) : p'.Manned setting where
  built _ := by
    rw [plan, rules]
    exact manned.built (by simp only [isUnderway, phase])
  within := by
    rw [depth, rules]
    exact manned.within
  crew v hv := by
    rw [plan]
    rw [workers] at hv
    rcases List.mem_or_eq_of_mem_set hv with other | rfl
    · exact manned.crew v other
    · exact worker

omit [Hosted W] in
/-- As one worker changes the pool goes on failing, unless that worker's error is lost. -/
theorem isDoomed_set {j : Nat} {w w' : Worker W} (phase : p.phase = .working)
    (phase' : p'.phase = .working) (at_j : p.workers[j]? = some w)
    (workers : p'.workers = p.workers.set j w')
    (pool : p.fatal.isSome = true → p'.fatal.isSome = true)
    (worker : w.isDoomed = true → w'.isDoomed = true ∨ p'.fatal.isSome = true)
    (failing : p.isDoomed = true) : p'.isDoomed = true := by
  rw [isDoomed_of_working phase] at failing
  rw [isDoomed_of_working phase', workers]
  obtain ⟨others, before, after⟩ := exists_others_of_set at_j (b := w')
  rcases failing with failed | ⟨v, hv, failed⟩
  · exact .inl (pool failed)
  · rcases List.mem_cons.1 (before.mem_iff.1 hv) with rfl | other
    · refine (worker failed).symm.imp_right fun failed => ?_
      exact ⟨w', after.mem_iff.2 List.mem_cons_self, failed⟩
    · exact .inr ⟨v, after.mem_iff.2 (List.mem_cons_of_mem _ other), failed⟩

/-- What a step of a pool does to the world is done by calls, and if something of another identity is
given the pool has an error that ends the run. -/
theorem Change.exists_calls (calm : setting.registry.IsCalm) (told : setting.reporter.IsCalm)
    (planned : plans[i]? = some p.plan)
    (staffed : p.workers.map (fun w => w.device) = p.plan.pool.devices)
    (manned : p.Manned setting) (h : Change setting p c m p' c') :
    ∃ calls, Path (Call.Made setting plans) c.world calls c'.world ∧ Shows setting i p p' calls ∧
      (p.isDoomed = true ∨ AnyForeign calls → p'.isDoomed = true) ∧ p'.Manned setting := by
  cases h with
  | start phase =>
    obtain ⟨p', v, calls, eq, path, shows, native, manned⟩ :=
      path_start calm planned phase manned c.world
    rw [eq]
    refine ⟨calls, path, shows, fun foreign => absurd foreign ?_, manned⟩
    simp [isDoomed, phase, native]
  | refuse phase =>
    have underway : p.isUnderway = true := by simp only [isUnderway, phase]
    refine ⟨[], .nil, .other underway rfl rfl rfl rfl ?_ nofun, fun _ => rfl,
      fun _ => manned.built underway, manned.within, manned.crew⟩
    simp [isWorking, phase]
  | fail phase gone failed =>
    have underway : p.isUnderway = true := by simp only [isUnderway, phase]
    exact ⟨[], .nil, .other underway rfl rfl rfl rfl (fun _ => gone) nofun, fun _ => rfl,
      fun _ => manned.built underway, manned.within, manned.crew⟩
  | drain phase gone fine =>
    have underway : p.isUnderway = true := by simp only [isUnderway, phase]
    refine ⟨[], .nil, .other underway rfl rfl rfl rfl (fun _ => gone) nofun, fun foreign => ?_,
      fun _ => manned.built underway, manned.within, manned.crew⟩
    rcases (isDoomed_of_working phase).1 (foreign.resolve_right not_anyForeign_nil) with
      fatal | ⟨w, hw, fatal⟩
    · simp [(failure?_eq_none_iff.1 fine).1] at fatal
    · simp [Worker.isDoomed, Worker.isGone_iff.1 (gone w hw)] at fatal
  | abort phase =>
    obtain ⟨p', v, calls, eq, path, shows, failing, manned⟩ :=
      path_abort calm planned phase manned c.world
    rw [eq]
    exact ⟨calls, path, shows, fun _ => failing, manned⟩
  | account phase =>
    obtain ⟨p', v, calls, eq, path, shows, native, manned⟩ :=
      path_account told phase manned c.world
    rw [eq]
    refine ⟨calls, path, shows, fun foreign => absurd foreign ?_, manned⟩
    simp [isDoomed, phase, native]
  | conclude phase =>
    have underway : p.isUnderway = true := by simp only [isUnderway, phase]
    refine ⟨[], .nil, .other underway rfl rfl rfl rfl ?_ nofun, fun foreign => absurd foreign ?_,
      fun _ => manned.built underway, manned.within, manned.crew⟩
    · simp [isWorking, phase]
    · simp [isDoomed, phase, not_anyForeign_nil]
  | close phase =>
    obtain ⟨p', v, calls, eq, path, shows, failing, manned⟩ :=
      path_close calm planned phase manned c.world
    have fresh : p.isDoomed = false := by simp only [isDoomed, phase]
    rw [eq]
    exact ⟨calls, path, shows, fun foreign => failing (foreign.resolve_left (by simp [fresh])), manned⟩
  | @worker j w w' s' phase at_j change =>
    have listed : p.plan.pool.devices[j]? = some w.device := by
      rw [← staffed, List.getElem?_map, at_j]
      rfl
    obtain ⟨calls, path, shows, fatal, mannedWorker⟩ := change.exists_calls calm told planned listed
      (manned.crew w (List.mem_of_getElem? at_j))
    have working : p.isWorking = true := by simp only [isWorking, phase]
    refine ⟨calls, path, .worker working working at_j rfl rfl shows, fun foreign => ?_,
      manned.set phase rfl rfl rfl rfl mannedWorker⟩
    have phase' : (p.withWorker j w' s').phase = .working := phase
    rcases foreign with failing | foreign
    · exact isDoomed_set phase phase' at_j rfl (fun kept => kept)
        (fun failed => .inl (fatal (.inl failed))) failing
    · have inside := (List.getElem?_eq_some_iff.1 at_j).1
      exact (isDoomed_of_working phase').2
        (.inr ⟨w', List.mem_set inside w', fatal (.inr foreign)⟩)
  | @join j w summary phase at_j stopped =>
    have working : p.isWorking = true := by simp only [isWorking, phase]
    have within := (manned.crew w (List.mem_of_getElem? at_j)).within
    refine ⟨[], .nil, .join working working at_j stopped rfl rfl, fun foreign => ?_,
      manned.set phase rfl rfl rfl rfl ⟨nofun, within, fun _ _ => nofun⟩⟩
    refine isDoomed_set phase ?_ at_j rfl (fun kept => kept) ?_
      (foreign.resolve_right not_anyForeign_nil)
    · exact phase
    · simp [Worker.isDoomed, stopped]
  | @joinFailed j w e phase at_j stopped =>
    have working : p.isWorking = true := by simp only [isWorking, phase]
    have within := (manned.crew w (List.mem_of_getElem? at_j)).within
    refine ⟨[], .nil, .join working working at_j stopped rfl rfl, fun _ => ?_,
      manned.set phase rfl rfl rfl rfl ⟨nofun, within, fun _ _ => nofun⟩⟩
    refine (isDoomed_of_working ?_).2 (.inl ?_)
    · exact phase
    · cases p.fatal <;> rfl

end PoolState

/-! ## Runs -/

namespace RunState

variable {s : RunState W} {i k : Nat} {p q : PoolState W}

omit [Hosted W] in
/-- A pool after a move is the one that moved, or it is as it was. -/
theorem getElem?_put {moved : PoolState W × Common W} (at_i : s.pools[i]? = some p)
    (at_k : (s.put i moved).pools[k]? = some q) :
    k = i ∧ q = moved.1 ∨ k ≠ i ∧ s.pools[k]? = some q := by
  by_cases here : k = i
  · subst here
    have inside := (List.getElem?_eq_some_iff.1 at_i).1
    have same := (List.getElem?_set_self inside).symm.trans at_k
    exact .inl ⟨rfl, (Option.some.inj same).symm⟩
  · exact .inr ⟨here, (List.getElem?_set_ne (Ne.symm here)).symm.trans at_k⟩

/-- The pools of a run have their plans. -/
theorem Reachable.planned {world : W} {quota : Nat}
    (reachable : Reachable setting (ofPlans world quota plans) s) (at_i : s.pools[i]? = some p) :
    plans[i]? = some p.plan := by
  obtain ⟨past, trace⟩ := reachable.trace
  exact (trace.induct_ofPlans (fun _ _ _ => True) (fun _ _ => trivial) (fun _ _ _ => trivial)
    (fun _ _ _ _ _ _ _ _ => trivial) at_i).1

/-- **What a run does to the world is done by calls.** What holds before the first call, and is kept by
what the steps call, holds of all calls of a run. -/
theorem Reachable.exists_calls {world : W} {quota : Nat} (calm : setting.registry.IsCalm)
    (told : setting.reporter.IsCalm) (P : List Call → RunState W → Prop)
    (init : P [] (ofPlans world quota plans))
    (step : ∀ calls s i p p' c' new, s.pools[i]? = some p → p.Shows setting i p' new →
      (p.isDoomed = true ∨ AnyForeign new → p'.isDoomed = true) → P calls s →
      P (calls ++ new) (s.put i (p', c')))
    (reachable : Reachable setting (ofPlans world quota plans) s) :
    ∃ calls, Path (Call.Made setting plans) world calls s.common.world ∧ P calls s := by
  suffices known : ∃ calls, Path (Call.Made setting plans) world calls s.common.world ∧ P calls s ∧
      ∀ p ∈ s.pools, p.Manned setting by
    obtain ⟨calls, path, holds, -⟩ := known
    exact ⟨calls, path, holds⟩
  induction reachable with
  | refl =>
    refine ⟨[], .nil, init, fun p hp => ?_⟩
    obtain ⟨plan, -, rfl⟩ := List.mem_map.1 hp
    refine ⟨nofun, Nat.le_refl 0, fun w hw => ?_⟩
    obtain ⟨device, -, rfl⟩ := List.mem_map.1 hw
    exact ⟨nofun, Nat.le_refl 0, fun _ _ => nofun⟩
  | step move earlier stepped ih =>
    obtain ⟨calls, path, holds, manned⟩ := ih
    obtain ⟨p, p', c', at_place, change, rfl⟩ := earlier.step_eq_some stepped
    obtain ⟨new, further, shows, failing, mannedThen⟩ := change.exists_calls calm told
      (earlier.planned at_place) (earlier.settled at_place).staffed
      (manned p (List.mem_of_getElem? at_place))
    refine ⟨calls ++ new, path.append further, step _ _ _ _ _ _ _ at_place shows failing holds,
      fun q hq => ?_⟩
    rcases List.mem_or_eq_of_mem_set hq with other | rfl
    · exact manned q other
    · exact mannedThen

end RunState

end TestFleet
