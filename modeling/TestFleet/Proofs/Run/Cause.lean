import Mathlib.Data.List.Induction
import TestFleet.Proofs.Run.CallingOff
import TestFleet.Proofs.Run.Outcomes
/-!
# Why a run fails

Pools that only notice that the run was called off fail with an echo. Behind every echo there is a pool
with an error of its own (`PoolState.IsCause`): whoever calls the run off has one, and keeps it to its
end unless a rule panics (`RunState.Reachable.caused`). Of the errors of several pools an execution
returns one that is not an echo, in whatever order the pools ended (`RunPlan.exists_cause`). So an
execution fails just where its scope was not fully entered, where a pool failed, or where a rule of the
run changed the identity of the result, and the cause of a failure is never masked.
-/
namespace TestFleet

variable {W : Type}

/-! ## The error of a run among those of its pools -/

namespace RunPlan

variable {outcomes : List (Except RunError PoolResult)} {o : Except RunError PoolResult} {e : RunError}

theorem failure?_concat_ok {r : PoolResult} : failure? (outcomes ++ [.ok r]) = failure? outcomes := by
  simp [failure?]

theorem failure?_concat_error :
    failure? (outcomes ++ [.error e]) = graver (failure? outcomes) e := by
  simp [failure?]

/-- An echo gives way to the next error. -/
theorem graver_aborted (next : RunError) : graver (some .aborted) next = some next := by
  cases next <;> rfl

/-- An error that is not an echo stays. -/
theorem graver_of_ne {met : RunError} (own : met ≠ .aborted) (next : RunError) :
    graver (some met) next = some met := by
  cases met with
  | aborted => exact absurd rfl own
  | _ => rfl

/-- **The error of a run is one of the errors of its pools, and it is an echo only if all of them are.** -/
theorem failure?_eq_some (failed : failure? outcomes = some e) :
    .error e ∈ outcomes ∧ (e = .aborted → ∀ e', .error e' ∈ outcomes → e' = .aborted) := by
  induction outcomes using List.reverseRecOn generalizing e with
  | nil => cases failed
  | append_singleton outcomes o ih =>
    cases o with
    | ok r =>
      rw [failure?_concat_ok] at failed
      obtain ⟨known, echo⟩ := ih failed
      refine ⟨List.mem_append_left _ known, fun echoes e' he' => echo echoes e' ?_⟩
      simpa using he'
    | error next =>
      rw [failure?_concat_error] at failed
      cases met : failure? outcomes with
      | none =>
        rw [met] at failed
        cases failed
        refine ⟨List.mem_append_right _ List.mem_cons_self, fun echoes e' he' => ?_⟩
        rcases List.mem_append.1 he' with earlier | now
        · obtain ⟨r, fine⟩ := exists_of_failure?_eq_none met _ earlier
          cases fine
        · cases List.mem_singleton.1 now
          exact echoes
      | some first =>
        obtain ⟨known, echo⟩ := ih met
        by_cases echoes : first = .aborted
        · subst echoes
          rw [met, graver_aborted] at failed
          cases failed
          refine ⟨List.mem_append_right _ List.mem_cons_self, fun echoes e' he' => ?_⟩
          rcases List.mem_append.1 he' with earlier | now
          · exact echo rfl e' earlier
          · cases List.mem_singleton.1 now
            exact echoes
        · rw [met, graver_of_ne echoes] at failed
          cases failed
          exact ⟨List.mem_append_left _ known, fun echo => absurd echo echoes⟩

/-- If an error is not an echo then the run fails with such a one, whatever comes before and after. -/
theorem exists_cause (failed : .error e ∈ outcomes) (own : e ≠ .aborted) :
    ∃ e', failure? outcomes = some e' ∧ e' ≠ .aborted ∧ .error e' ∈ outcomes := by
  obtain ⟨e', fails⟩ := Option.isSome_iff_exists.1 (isSome_failure? failed)
  obtain ⟨known, echo⟩ := failure?_eq_some fails
  exact ⟨e', fails, fun echoes => own (echo echoes e failed), known⟩

end RunPlan

/-! ## Pools with errors of their own -/

namespace PoolState

/-- The error that the pool fails with. -/
def error? (p : PoolState W) : Option RunError :=
  match p.phase with
  | .refused e | .aborting e _ | .finished (.error e) => some e
  | _ => none

/-- The pool has an error that it will fail with, and this is not an echo. -/
def IsCause (p : PoolState W) : Prop := p.isDoomed = true ∧ p.error? ≠ some .aborted

/-- Only in a run that was called off does a pool fail with an echo, and it is not refused by one. -/
structure Echoes (p : PoolState W) (off : Bool) : Prop where
  own : p.phase ≠ .refused .aborted
  echo : p.error? = some .aborted → off = true

variable {p p' : PoolState W}

theorem isCause_of_working (phase : p.phase = .working) (doomed : p.isDoomed = true) : p.IsCause :=
  ⟨doomed, by simp [error?, phase]⟩

/-- A pool that is over and has an error of its own has failed with it. -/
theorem IsCause.exists_error (cause : p.IsCause) (ended : p.isOver = true) :
    ∃ e, p.phase = .finished (.error e) ∧ e ≠ .aborted := by
  obtain ⟨doomed, own⟩ := cause
  cases phase : p.phase with
  | finished o =>
    cases o with
    | ok r => simp [isDoomed, phase] at doomed
    | error e =>
      refine ⟨e, rfl, fun echo => own ?_⟩
      simp only [error?, phase, echo]
  | lost m => simp [isDoomed, phase] at doomed
  | _ => simp [isOver, phase] at ended

/-- A pool that fails with no echo. -/
theorem echoes_of_error? {off : Bool} (own : p.error? ≠ some .aborted) : p.Echoes off where
  own phase := own (by simp only [error?, phase])
  echo echoes := absurd echoes own

/-- A pool that gives up because its workers have ended does so with an error of one of them, or with
an echo as the run was called off. -/
theorem failure?_eq_some_iff {off : Bool} {e : RunError} :
    p.failure? off = some e ↔
      (∃ fatal, p.fatal = some fatal ∧ e = .pipeline fatal) ∨
        p.fatal = none ∧ off = true ∧ e = .aborted := by
  unfold failure?
  cases p.fatal <;> simp [eq_comm]

variable {setting : Setting W}

/-- A pool that has been started has no echo to fail with. -/
theorem error?_start (ctx : PoolContext) (world : W) :
    (p.start setting ctx world).1.error? ≠ some .aborted := by
  unfold PoolState.start
  split
  · nofun
  · nofun
  · dsimp only
    split
    · split <;> nofun
    · nofun
    · nofun

/-- A pool that has closed has no echo to fail with. -/
theorem error?_close (ctx : PoolContext) (r : PoolResult) (world : W) :
    (p.close ctx r world).1.error? ≠ some .aborted := by
  unfold PoolState.close
  split <;> nofun

variable [Hosted W] {c c' : Common W} {m : PoolMove}

/-- **Only what calls a run off, or finds it called off, has an error.** -/
theorem Change.echoes (h : Change setting p c m p' c') (echoes : p.Echoes c.cancelled) :
    p'.Echoes c'.cancelled := by
  cases h with
  | start => exact echoes_of_error? (error?_start _ _)
  | close => exact echoes_of_error? (error?_close _ _ _)
  | refuse => exact ⟨fun own => (by cases own), fun _ => rfl⟩
  | fail phase gone failed =>
    refine ⟨fun own => (by cases own), fun echo => ?_⟩
    rcases failure?_eq_some_iff.1 failed with ⟨fatal, -, rfl⟩ | ⟨-, off, -⟩
    · cases echo
    · exact off
  | @abort e r phase =>
    have known : p.error? = some e := by simp only [error?, phase]
    rcases abort_eq ⟨setting.context, p.plan.pool⟩ e r p c.world with eq | ⟨m, eq⟩ <;> rw [eq]
    · exact ⟨fun own => (by cases own), fun echo => echoes.echo (known.trans echo)⟩
    · exact echoes_of_error? fun echo => by cases echo
  | @account item left unreachable =>
    obtain ⟨r, collector, _, -, ⟨m, -, eq⟩ | ⟨count, eq⟩⟩ :=
      account_eq setting item left unreachable p c.world <;> rw [eq] <;>
      exact echoes_of_error? fun echo => by cases echo
  | worker phase | join phase | joinFailed phase =>
    exact echoes_of_error? (by simp [error?, withWorker, phase])
  | _ => exact echoes_of_error? fun echo => by cases echo

variable {plans : List PoolPlan} {i : Nat}

/-- A pool that has an error of its own keeps it. -/
theorem Change.isCause (h : Change setting p c m p' c') (doomed : p'.isDoomed = true)
    (echoes : p.Echoes c.cancelled) (cause : p.IsCause) : p'.IsCause := by
  refine ⟨doomed, ?_⟩
  cases h with
  | start => exact error?_start _ _
  | close => exact error?_close _ _ _
  | refuse phase =>
    rintro same
    cases same
    exact echoes.own phase
  | fail phase gone failed =>
    rcases failure?_eq_some_iff.1 failed with ⟨fatal, -, rfl⟩ | ⟨none, -, -⟩
    · intro echo
      cases echo
    · -- All workers are gone, so that no error of one of them can have been overlooked.
      rcases (isDoomed_of_working phase).1 cause.1 with fatal | ⟨w, hw, fatal⟩
      · simp [none] at fatal
      · simp [Worker.isDoomed, Worker.isGone_iff.1 (gone w hw)] at fatal
  | @abort e r phase =>
    have known : p.error? = some e := by simp only [error?, phase]
    rcases abort_eq ⟨setting.context, p.plan.pool⟩ e r p c.world with eq | ⟨m, eq⟩ <;> rw [eq]
    · exact fun echo => cause.2 (known.trans echo)
    · intro echo
      cases echo
  | @account item left unreachable =>
    obtain ⟨r, collector, _, -, ⟨m, -, eq⟩ | ⟨count, eq⟩⟩ :=
      account_eq setting item left unreachable p c.world <;>
    · rw [eq]
      intro echo
      cases echo
  | worker phase | join phase | joinFailed phase => simp [error?, withWorker, phase]
  | _ =>
    intro echo
    cases echo

/-- **Who calls a run off has an error of its own.** -/
theorem Change.isCause_of_cancelled (h : Change setting p c m p' c') (echoes : p.Echoes c.cancelled)
    (before : c.cancelled = false) (after : c'.cancelled = true) : p'.IsCause := by
  have same : c.cancelled ≠ true := by simp [before]
  cases h with
  | refuse phase =>
    refine ⟨rfl, fun echo => ?_⟩
    cases echo
    exact echoes.own phase
  | joinFailed phase =>
    refine isCause_of_working phase ((isDoomed_of_working ?_).2 (.inl ?_))
    · exact phase
    · cases p.fatal <;> rfl
  | @worker j w w' s' phase at_j change =>
    cases change with
    | @cancel e =>
      have here := List.mem_set (List.getElem?_eq_some_iff.1 at_j).1 (w.at_ (.abandoning e))
      refine isCause_of_working phase ((isDoomed_of_working ?_).2 (.inr ⟨_, here, rfl⟩))
      exact phase
    | work _ change => cases change <;> exact absurd after same
    | _ => exact absurd after same
  | _ => exact absurd after same

end PoolState

/-! ## Runs that are called off -/

namespace RunState

variable [Hosted W] {setting : Setting W} {world : W} {quota : Nat} {plans : List PoolPlan}
  {s : RunState W}

/-- When a run was called off a pool has an error of its own, and without that no pool has an echo. -/
structure Caused (setting : Setting W) (s : RunState W) : Prop where
  manned : ∀ p ∈ s.pools, p.Manned setting
  echoes : ∀ p ∈ s.pools, p.Echoes s.common.cancelled
  cause : s.common.cancelled = true → ∃ p ∈ s.pools, p.IsCause

omit [Hosted W] in
theorem caused_ofPlans : (ofPlans world quota plans).Caused setting where
  manned := by
    intro p hp
    obtain ⟨plan, -, rfl⟩ := List.mem_map.1 hp
    refine ⟨nofun, Nat.le_refl 0, fun w hw => ?_⟩
    obtain ⟨device, -, rfl⟩ := List.mem_map.1 hw
    exact ⟨nofun, Nat.le_refl 0, fun _ _ => nofun⟩
  echoes := by
    intro p hp
    obtain ⟨plan, -, rfl⟩ := List.mem_map.1 hp
    exact PoolState.echoes_of_error? nofun
  cause := nofun

/-- **Every run that was called off has its cause**, if neither rules nor the reporter panic. -/
theorem Reachable.caused (calm : setting.registry.IsCalm) (told : setting.reporter.IsCalm)
    (reachable : Reachable setting (ofPlans world quota plans) s) : s.Caused setting := by
  induction reachable with
  | refl => exact caused_ofPlans
  | @step s t move earlier stepped ih =>
    obtain ⟨p, p', c', at_place, change, rfl⟩ := earlier.step_eq_some stepped
    have hp := List.mem_of_getElem? at_place
    obtain ⟨_, -, -, doomed, manned⟩ := change.exists_calls calm told (earlier.planned at_place)
      (earlier.settled at_place).staffed (ih.manned p hp)
    obtain ⟨others, before, after⟩ := exists_others_of_set at_place (b := p')
    have here : p' ∈ s.pools.set move.place p' := after.mem_iff.2 List.mem_cons_self
    refine ⟨fun q hq => ?_, fun q hq => ?_, fun off => ?_⟩
    · rcases List.mem_or_eq_of_mem_set hq with other | rfl
      · exact ih.manned q other
      · exact manned
    · rcases List.mem_or_eq_of_mem_set hq with other | rfl
      · have known := ih.echoes q other
        exact ⟨known.own, fun echo => change.cancelled (known.echo echo)⟩
      · exact change.echoes (ih.echoes p hp)
    · cases called : s.common.cancelled with
      | false => exact ⟨p', here, change.isCause_of_cancelled (ih.echoes p hp) called off⟩
      | true =>
        obtain ⟨q, hq, cause⟩ := ih.cause called
        rcases List.mem_cons.1 (before.mem_iff.1 hq) with rfl | other
        · exact ⟨p', here, change.isCause (doomed (.inl cause.1)) (ih.echoes q hp) cause⟩
        · exact ⟨q, after.mem_iff.2 (List.mem_cons_of_mem _ other), cause⟩

omit [Hosted W] in
/-- Where a pool failed one failed with an error that is not an echo. -/
theorem Caused.exists_own (caused : s.Caused setting) (ended : s.isOver = true) {p : PoolState W}
    (hp : p ∈ s.pools) {e : RunError} (failed : p.phase = .finished (.error e)) :
    ∃ q ∈ s.pools, ∃ e', q.phase = .finished (.error e') ∧ e' ≠ .aborted := by
  by_cases echo : e = .aborted
  · have off : s.common.cancelled = true :=
      (caused.echoes p hp).echo (by simp only [PoolState.error?, failed, echo])
    obtain ⟨q, hq, cause⟩ := caused.cause off
    exact ⟨q, hq, cause.exists_error (List.all_eq_true.1 ended q hq)⟩
  · exact ⟨p, hp, e, failed, echo⟩

/-- A pool failed with an error just where this is among the outcomes of the run. -/
theorem Reachable.error_mem_iff (reachable : Reachable setting (ofPlans world quota plans) s)
    {e : RunError} : .error e ∈ s.outcomes ↔ ∃ p ∈ s.pools, p.phase = .finished (.error e) := by
  rw [reachable.outcomes_perm.mem_iff, List.mem_filterMap]
  simp only [PoolState.outcome?_eq_some_iff]

/-- A run fails just where one of its pools does. -/
theorem Reachable.isSome_failure?_iff (reachable : Reachable setting (ofPlans world quota plans) s) :
    (RunPlan.failure? s.outcomes).isSome = true ↔
      ∃ p ∈ s.pools, ∃ e, p.phase = .finished (.error e) := by
  constructor
  · intro fails
    obtain ⟨e, fails⟩ := Option.isSome_iff_exists.1 fails
    obtain ⟨p, hp, failed⟩ := reachable.error_mem_iff.1 (RunPlan.failure?_eq_some fails).1
    exact ⟨p, hp, e, failed⟩
  · rintro ⟨p, hp, e, failed⟩
    exact RunPlan.isSome_failure? (reachable.error_mem_iff.2 ⟨p, hp, failed⟩)

/-- **The error of a run is the error of one of its pools, and no echo**, in whatever order they came to
their ends. -/
theorem Reachable.exists_cause (reachable : Reachable setting (ofPlans world quota plans) s)
    (calm : setting.registry.IsCalm) (told : setting.reporter.IsCalm) (ended : s.isOver = true)
    {p : PoolState W} (hp : p ∈ s.pools) {e : RunError} (failed : p.phase = .finished (.error e))
    {outcomes : List (Except RunError PoolResult)} (order : outcomes.Perm s.outcomes) :
    ∃ e', RunPlan.failure? outcomes = some e' ∧ e' ≠ .aborted ∧
      ∃ q ∈ s.pools, q.phase = .finished (.error e') := by
  obtain ⟨q, hq, e', own, echo⟩ := (reachable.caused calm told).exists_own ended hp failed
  have known := order.mem_iff.2 (reachable.error_mem_iff.2 ⟨q, hq, own⟩)
  obtain ⟨cause, fails, original, among⟩ := RunPlan.exists_cause known echo
  exact ⟨cause, fails, original, reachable.error_mem_iff.1 (order.mem_iff.1 among)⟩

end RunState

/-! ## Executions -/

namespace RunPlan

variable [Hosted W] {plan : RunPlan W} {course : RunState W → RunState W} {registry : Registry W}
  {reporter : Reporter W} {w : W}

/-- The rules of the run can be built, and all of them are entered. -/
def IsEntered (plan : RunPlan W) (registry : Registry W) (w : W) : Prop :=
  ∃ rules depth v, registry.rulesOfRun plan.context = .done rules ∧
    Pipeline.enter ⟨.run, rules⟩ plan.context w = (.done ⟨depth, none⟩, v)

omit [Hosted W] in
/-- A reporter that does not panic does not stop an execution. -/
theorem exists_told {x : Action W Empty Unit} (calm : x.IsCalm) (w : W) :
    ∃ v, tell x w = (.done (), v) := by
  obtain ⟨v, ⟨_, done⟩ | ⟨e, -⟩⟩ := calm.done_or_failed w
  · exact ⟨v, mapError_eq_done_iff.2 done⟩
  · exact e.elim

/-- An execution that enters its rules goes on to gather a result. -/
theorem exists_gathers_of_isEntered (course : RunState W → RunState W) (told : reporter.IsCalm)
    (entered : plan.IsEntered registry w) :
    ∃ rules depth s r, plan.Gathers course registry reporter w rules depth s r := by
  obtain ⟨rules, depth, u, built, enter⟩ := entered
  obtain ⟨v, begun⟩ := exists_told (told.started plan.pools) u
  exact ⟨rules, depth, _, _, built, ⟨u, v, enter, begun, rfl⟩, rfl⟩

section Finish

variable {rules : List (Rule W RunContext RunResult)} {depth : Nat} {s : RunState W} {r : RunResult}

/-- What an execution does with the result that it has gathered. -/
theorem Gathers.executeBy_eq (gathers : plan.Gathers course registry reporter w rules depth s r) :
    plan.executeBy course registry reporter w =
      plan.finish reporter rules depth r (failure? s.outcomes) s.common.world := by
  obtain ⟨u, v, enter, begun, rfl⟩ := gathers.entered
  rw [RunPlan.executeBy_eq plan course reporter gathers.built enter, gathers.result]
  exact Action.andThen_of_done begun

omit [Hosted W] in
/-- An execution that has an error when it leaves its scope fails with that error. -/
theorem finish_some (calm : ∀ rule ∈ rules, rule.IsCalm) (e : RunError) :
    (plan.finish reporter rules depth r (some e) w).1 = .failed e := by
  have quiet : (Pipeline.release ⟨.run, rules⟩ plan.context r depth :
      Action W RunError Unit).IsCalm := Pipeline.isCalm_release calm
  obtain ⟨v, ⟨_, done⟩ | ⟨e', failed⟩⟩ := quiet.done_or_failed w
  · exact congrArg Prod.fst (Action.andThen_of_done done)
  · unfold Pipeline.release at failed
    split at failed <;> cases failed

omit [Hosted W] in
/-- An execution without an error fails as it leaves its scope just where a rule changes the identity
of its result. -/
theorem finish_none (calm : ∀ rule ∈ rules, rule.IsCalm) (told : reporter.IsCalm) :
    (∀ m, (plan.finish reporter rules depth r none w).1 ≠ .panicked m) ∧
      ((∃ e, (plan.finish reporter rules depth r none w).1 = .failed e) ↔
        Pipeline.Strays plan.context (rules.take depth).reverse r w) := by
  have quiet : (Pipeline.unwind ⟨.run, rules⟩ plan.context r depth).IsCalm :=
    Pipeline.isCalm_unwind calm
  obtain ⟨v, ⟨r', done⟩ | ⟨e, failed⟩⟩ := quiet.done_or_failed w
  · obtain ⟨u, completed⟩ := exists_told (told.completed r') v
    have finished : plan.finish reporter rules depth r none w = (.done r', u) :=
      (Action.andThen_of_done (mapError_eq_done_iff.2 done)).trans (Action.andThen_of_done completed)
    have strays : (∃ e, (.done r' : Outcome PipelineError RunResult) = .failed e) ↔
        Pipeline.Strays plan.context (rules.take depth).reverse r w :=
      Pipeline.failed_iff_strays done nofun
    rw [finished]
    simpa using strays
  · have carried : ((Pipeline.unwind ⟨.run, rules⟩ plan.context r depth).mapError
        RunError.pipeline) w = (.failed (.pipeline e), v) := by
      unfold Action.mapError
      rw [failed]
      rfl
    have finished : plan.finish reporter rules depth r none w = (.failed (.pipeline e), v) :=
      Action.andThen_of_failed carried
    have strays : (∃ e', (.failed e : Outcome PipelineError RunResult) = .failed e') ↔
        Pipeline.Strays plan.context (rules.take depth).reverse r w :=
      Pipeline.failed_iff_strays failed nofun
    rw [finished]
    simpa using strays

/-- An execution that has gathered its result does not panic, and it fails just where a pool has failed
or a rule changes the identity of that result. -/
theorem Gathers.failed_iff (gathers : plan.Gathers course registry reporter w rules depth s r)
    (calm : registry.IsCalm) (told : reporter.IsCalm) :
    (∀ m, (plan.executeBy course registry reporter w).1 ≠ .panicked m) ∧
      ((∃ e, (plan.executeBy course registry reporter w).1 = .failed e) ↔
        (failure? s.outcomes).isSome = true ∨
          Pipeline.Strays plan.context (rules.take depth).reverse r s.common.world) := by
  have calmRules := calm.run _ _ gathers.built
  rw [gathers.executeBy_eq]
  cases failure? s.outcomes with
  | none => simpa using finish_none calmRules told
  | some e => simp [finish_some calmRules e]

end Finish

/-- An execution that does not enter its rules fails. -/
theorem failed_of_not_isEntered (course : RunState W → RunState W) (calm : registry.IsCalm)
    (built : ∀ m, registry.rulesOfRun plan.context ≠ .panicked m)
    (out : ¬ plan.IsEntered registry w) :
    ∃ e, (plan.executeBy course registry reporter w).1 = .failed e := by
  cases rulesOfRun : registry.rulesOfRun plan.context with
  | failed e =>
    refine ⟨.config e, ?_⟩
    simp only [executeBy, bind, Action.andThen, configured, Action.ofOutcome, rulesOfRun, Hosted.clock,
      Outcome.mapError]
  | panicked m => exact absurd rulesOfRun (built m)
  | done rules =>
    have calmRules := calm.run _ rules rulesOfRun
    have quiet : (Pipeline.enter ⟨.run, rules⟩ plan.context).IsCalm := Pipeline.isCalm_enter calmRules
    obtain ⟨v, ⟨⟨depth, failure⟩, enter⟩ | ⟨e, failed⟩⟩ := quiet.done_or_failed w
    · rw [RunPlan.executeBy_eq plan course reporter rulesOfRun enter]
      cases failure with
      | none => exact absurd ⟨rules, depth, v, rulesOfRun, enter⟩ out
      | some e => exact ⟨.pipeline e, finish_some calmRules _⟩
    · exact absurd failed Pipeline.enter_ne_failed

end RunPlan

/-- **The cause of a failure is never masked.** If neither the rules nor the reporter panic, an execution
returns, whatever its backends do and whatever course its pools take. It fails just where its scope was
not fully entered, where a pool failed, or where a rule of the run changed the identity of its result
as it was left. When a pool failed, the error that the execution fails with is one that a pool failed
with, and no echo; and so would be the error in every other order of the pools' outcomes. -/
theorem cause_never_masked [Hosted W] {plan : RunPlan W} {course : RunState W → RunState W}
    {registry : Registry W} {reporter : Reporter W} (calm : registry.IsCalm)
    (built : ∀ m, registry.rulesOfRun plan.context ≠ .panicked m) (told : reporter.IsCalm)
    (courses : RunPlan.IsCourse (plan.setting registry reporter) plan.pools course) (w : W) :
    (∀ m, (plan.executeBy course registry reporter w).1 ≠ .panicked m) ∧
    ((∃ e, (plan.executeBy course registry reporter w).1 = .failed e) ↔
      ¬ plan.IsEntered registry w ∨
        ∃ rules depth s r, plan.Gathers course registry reporter w rules depth s r ∧
          ((∃ p ∈ s.pools, ∃ e, p.phase = .finished (.error e)) ∨
            Pipeline.Strays plan.context (rules.take depth).reverse r s.common.world)) ∧
    ∀ rules depth s r, plan.Gathers course registry reporter w rules depth s r →
      ∀ p ∈ s.pools, ∀ e, p.phase = .finished (.error e) →
        (∃ cause, (plan.executeBy course registry reporter w).1 = .failed cause ∧ cause ≠ .aborted ∧
          ∃ q ∈ s.pools, q.phase = .finished (.error cause)) ∧
        ∀ outcomes, outcomes.Perm s.outcomes →
          ∃ cause, RunPlan.failure? outcomes = some cause ∧ cause ≠ .aborted ∧
            ∃ q ∈ s.pools, q.phase = .finished (.error cause) := by
  have course_of {rules depth s r}
      (gathers : plan.Gathers course registry reporter w rules depth s r) :
      ∃ v, RunState.Reachable (plan.setting registry reporter)
        (.ofPlans v (plan.setting registry reporter).retry.total plan.pools) s ∧ s.isOver = true := by
    obtain ⟨_, v, -, -, rfl⟩ := gathers.entered
    exact ⟨v, courses v⟩
  refine ⟨?_, ⟨fun failed => ?_, ?_⟩, fun rules depth s r gathers p hp e own => ?_⟩
  · by_cases entered : plan.IsEntered registry w
    · obtain ⟨rules, depth, s, r, gathers⟩ := RunPlan.exists_gathers_of_isEntered course told entered
      exact (gathers.failed_iff calm told).1
    · obtain ⟨e, failed⟩ := RunPlan.failed_of_not_isEntered course calm built entered
      rw [failed]
      nofun
  · by_cases entered : plan.IsEntered registry w
    · obtain ⟨rules, depth, s, r, gathers⟩ := RunPlan.exists_gathers_of_isEntered course told entered
      obtain ⟨v, reachable, -⟩ := course_of gathers
      refine .inr ⟨rules, depth, s, r, gathers, ?_⟩
      exact ((gathers.failed_iff calm told).2.1 failed).imp_left reachable.isSome_failure?_iff.1
    · exact .inl entered
  · rintro (out | ⟨rules, depth, s, r, gathers, failing⟩)
    · exact RunPlan.failed_of_not_isEntered course calm built out
    · obtain ⟨v, reachable, -⟩ := course_of gathers
      exact (gathers.failed_iff calm told).2.2 (failing.imp_left reachable.isSome_failure?_iff.2)
  · obtain ⟨v, reachable, ended⟩ := course_of gathers
    refine ⟨?_, fun outcomes order => reachable.exists_cause calm told ended hp own order⟩
    obtain ⟨cause, failure, original⟩ := reachable.exists_cause calm told ended hp own (.refl _)
    refine ⟨cause, ?_, original⟩
    rw [gathers.executeBy_eq, failure]
    exact RunPlan.finish_some (calm.run _ _ gathers.built) cause

/-! ## A pool that is refused, and the echo of that -/

namespace Sample

/-- The two pools, with one rule on pools. -/
def guarded : RunPlan Host := paired [⟨"sample.rule", none, []⟩]

/-- The registry of the rule that refuses the first of the two pools. -/
def refuser : Registry Host := Registry.empty.withPoolRule "sample.rule" fun _ _ => .done [refusingFirst]

theorem isCalm_refuser : refuser.IsCalm := by
  refine Registry.isCalm_of_factories nofun ?_ nofun nofun
  intro factory known ctx e rules built rule hr
  obtain rfl := List.mem_singleton.1 known
  cases built
  obtain rfl := List.mem_singleton.1 hr
  constructor
  · intro ctx w m
    unfold refusingFirst
    dsimp only
    split <;> nofun
  · exact fun _ _ => nofun

/-- Whether a pool has failed with an echo. -/
def hasEchoed (p : PoolState Host) : Bool := failedWith? p == some .aborted

end Sample

open Sample in
/-- The second pool fails with an echo as the first is refused, and the execution fails with what the
first was refused by. -/
theorem cause_of_refusing : ∃ rules depth s r cause,
    guarded.Gathers (RunState.play (guarded.setting refuser .silent)) refuser .silent default rules depth
        s r ∧
      s.pools.any hasEchoed = true ∧
      (guarded.execute refuser .silent default).1 = .failed cause ∧ cause ≠ .aborted ∧
      ∃ q ∈ s.pools, q.phase = .finished (.error cause) := by
  have unruled : refuser.rulesOfRun guarded.context = .done [] := rfl
  have built : ∀ m, refuser.rulesOfRun guarded.context ≠ .panicked m := by
    rw [unruled]
    exact fun m => nofun
  obtain ⟨-, -, masks⟩ := cause_never_masked isCalm_refuser built isCalm_silent
    (RunPlan.isCourse_play _ guarded.pools) default
  have echoed : (RunState.play (guarded.setting refuser .silent) (.ofPlans default
      (guarded.setting refuser .silent).retry.total guarded.pools)).pools.any hasEchoed = true := by
    decide +kernel
  obtain ⟨p, hp, failed⟩ := List.any_eq_true.1 echoed
  have gathers : guarded.Gathers (RunState.play (guarded.setting refuser .silent)) refuser .silent
      default [] 0 _ _ :=
    ⟨unruled, ⟨default, default, rfl, rfl, rfl⟩, rfl⟩
  obtain ⟨⟨cause, fails, own, found⟩, -⟩ :=
    masks [] 0 _ _ gathers p hp _ (failedWith?_eq_some (eq_of_beq failed))
  exact ⟨[], 0, _, _, cause, gathers, echoed, fails, own, found⟩

end TestFleet
