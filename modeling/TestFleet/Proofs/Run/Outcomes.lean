import TestFleet.Proofs.Run.Ending
import TestFleet.Proofs.Run.Execution
import TestFleet.Proofs.Run.Numbering
import TestFleet.Proofs.Run.Plan
/-!
# What becomes of the pools of an execution

The outcomes of a run are those of its pools (`RunState.Reachable.outcomes_perm`). An execution that is
done went on with the result that its pools came to (`RunPlan.Gathers`), and no pool had failed: each
planned pool has its one result there, in ascending order of the names, unless a panic ended it. A pool
that a panic ended has no outcome at all, and nothing takes note of that.
-/
namespace TestFleet

variable {W : Type}

/-! ## Outcomes of pools -/

namespace PoolState

/-- How the pool ended, if it did so other than by a panic. -/
def outcome? (p : PoolState W) : Option (Except RunError PoolResult) :=
  match p.phase with
  | .finished o => some o
  | _ => none

/-- What the pool came to, if it did not fail. -/
def result? (p : PoolState W) : Option PoolResult := p.outcome?.bind Except.toOption

theorem outcome?_eq_some_iff {p : PoolState W} {o : Except RunError PoolResult} :
    p.outcome? = some o ↔ p.phase = .finished o := by
  unfold outcome?
  cases p.phase <;> simp

theorem result?_eq_some_iff {p : PoolState W} {r : PoolResult} :
    p.result? = some r ↔ p.phase = .finished (.ok r) := by
  unfold result?
  rw [Option.bind_eq_some_iff]
  constructor
  · rintro ⟨o, ended, fine⟩
    cases o with
    | ok r' =>
      cases fine
      exact outcome?_eq_some_iff.1 ended
    | error e => cases fine
  · exact fun phase => ⟨.ok r, outcome?_eq_some_iff.2 phase, rfl⟩

/-- A pool that moves has not ended. -/
theorem Change.outcome? [Hosted W] {setting : Setting W} {p p' : PoolState W} {c c' : Common W}
    {m : PoolMove} (h : Change setting p c m p' c') : p.outcome? = none := by
  cases h with
  | start phase | refuse phase | fail phase | drain phase | abort phase | account phase
  | conclude phase | close phase | worker phase | join phase | joinFailed phase =>
    simp only [PoolState.outcome?, phase]

end PoolState

namespace RunState

theorem noted_eq (p : PoolState W) (outcomes : List (Except RunError PoolResult)) :
    noted p outcomes = outcomes ++ p.outcome?.toList := by
  unfold noted PoolState.outcome?
  cases p.phase <;> simp

variable [Hosted W] {setting : Setting W} {world : W} {quota : Nat} {plans : List PoolPlan}
  {s : RunState W}

/-- **The outcomes of a run are those of its pools**, in the order in which they ended. -/
theorem Reachable.outcomes_perm (reachable : Reachable setting (ofPlans world quota plans) s) :
    s.outcomes.Perm (s.pools.filterMap PoolState.outcome?) := by
  induction reachable with
  | refl =>
    have none : (ofPlans world quota plans).pools.filterMap PoolState.outcome? = [] := by
      refine List.filterMap_eq_nil_iff.2 fun p hp => ?_
      obtain ⟨plan, -, rfl⟩ := List.mem_map.1 hp
      rfl
    rw [none]
    exact .refl _
  | @step s t move earlier stepped ih =>
    obtain ⟨p, p', c', at_place, change, rfl⟩ := earlier.step_eq_some stepped
    obtain ⟨others, before, after⟩ := exists_others_of_set at_place (b := p')
    have before := before.filterMap PoolState.outcome?
    have after := after.filterMap PoolState.outcome?
    rw [List.filterMap_cons_none change.outcome?] at before
    have split : (p' :: others).filterMap PoolState.outcome? =
        p'.outcome?.toList ++ others.filterMap PoolState.outcome? := by
      cases ended : p'.outcome? <;> simp [ended]
    rw [split] at after
    simp only [put, noted_eq]
    exact ((ih.trans before).append_right _).trans (List.perm_append_comm.trans after.symm)

/-- The pools of a run are those that were planned. -/
theorem Reachable.plans_eq (reachable : Reachable setting (ofPlans world quota plans) s) :
    s.pools.map (·.plan) = plans := by
  have same := reachable.length_pools
  refine List.ext_getElem? fun i => ?_
  rw [List.getElem?_map]
  cases at_i : s.pools[i]? with
  | some p => exact (reachable.planned at_i).symm
  | none => exact (List.getElem?_eq_none (same ▸ List.getElem?_eq_none_iff.1 at_i)).symm

end RunState

/-! ## Results of pools -/

/-- Pools that all came to their own results have one for each of them. -/
theorem PoolState.map_pool_results {pools : List (PoolState W)}
    (own : ∀ p ∈ pools, ∃ r, p.result? = some r ∧ r.pool = p.id) :
    (pools.filterMap PoolState.result?).map (·.pool) = pools.map PoolState.id := by
  induction pools with
  | nil => rfl
  | cons p rest ih =>
    obtain ⟨⟨r, found, same⟩, others⟩ := List.forall_mem_cons.1 own
    rw [List.filterMap_cons_some found, List.map_cons, List.map_cons, same, ih others]

theorem PoolState.map_id_eq (pools : List (PoolState W)) :
    pools.map PoolState.id = (pools.map (·.plan)).map fun planned => planned.pool.id := by
  rw [List.map_map]
  rfl

theorem PoolId.before_total (a b : PoolId) : (!b.before a || !a.before b) = true := by
  simp only [before, Ascending.textBefore, Bool.or_eq_true, Bool.not_eq_true', decide_eq_false_iff_not,
    String.not_lt]
  exact String.le_total _ _

theorem PoolId.before_trans (a b c : PoolId) (first : (!b.before a) = true)
    (second : (!c.before b) = true) : (!c.before a) = true := by
  simp only [before, Ascending.textBefore, Bool.not_eq_true', decide_eq_false_iff_not, String.not_lt]
    at first second ⊢
  exact String.le_trans first second

namespace RunPlan

variable {outcomes : List (Except RunError PoolResult)}

/-- A run fails unless all of its pools came to a result. -/
theorem exists_of_failure?_eq_none (fine : failure? outcomes = none) :
    ∀ o ∈ outcomes, ∃ r, o = .ok r := by
  intro o ho
  cases o with
  | ok r => exact ⟨r, rfl⟩
  | error e =>
    have failed := isSome_failure? ho
    rw [fine] at failed
    cases failed

/-- The results are those of the pools that did not fail. -/
theorem results_perm (outcomes : List (Except RunError PoolResult)) :
    (results outcomes).Perm (outcomes.filterMap Except.toOption) := by
  refine (List.mergeSort_perm _ _).trans (.of_eq ?_)
  refine congrArg (List.filterMap · outcomes) (funext fun o => ?_)
  cases o <;> rfl

/-- The results are in ascending order of the names of their pools. -/
theorem results_ascend (outcomes : List (Except RunError PoolResult)) :
    (results outcomes).Pairwise fun a b => b.pool.before a.pool = false := by
  have trans (a b c : PoolResult) : (!b.pool.before a.pool) = true →
      (!c.pool.before b.pool) = true → (!c.pool.before a.pool) = true :=
    PoolId.before_trans a.pool b.pool c.pool
  have total (a b : PoolResult) : (!b.pool.before a.pool || !a.pool.before b.pool) = true :=
    PoolId.before_total a.pool b.pool
  refine (List.pairwise_mergeSort trans total _).imp fun {a b} sorted => ?_
  simpa using sorted

variable [Hosted W] {plan : RunPlan W} {course : RunState W → RunState W} {registry : Registry W}
  {reporter : Reporter W} {w w' : W}

/-- An execution enters its rules and lets its pools take their course, to a state, and gathers from
this the result that the rules are then unwound over. -/
structure Gathers (plan : RunPlan W) (course : RunState W → RunState W) (registry : Registry W)
    (reporter : Reporter W) (w : W) (rules : List (Rule W RunContext RunResult)) (depth : Nat)
    (s : RunState W) (r : RunResult) : Prop where
  built : registry.rulesOfRun plan.context = .done rules
  entered : ∃ u v, Pipeline.enter ⟨.run, rules⟩ plan.context w = (.done ⟨depth, none⟩, u) ∧
    tell (reporter.started plan.pools) u = (.done (), v) ∧
    s = course (.ofPlans v (plan.setting registry reporter).retry.total plan.pools)
  result : r = plan.result (results s.outcomes) (Hosted.now w) (Hosted.now s.common.world)
    s.common.budget.used

omit [Hosted W] in
theorem mapError_eq_done_iff {ε α : Type} {f : ε → RunError} {x : Action W ε α} {a : α} :
    x.mapError f w = (.done a, w') ↔ x w = (.done a, w') := by
  unfold Action.mapError
  rcases x w with ⟨_ | _ | _, v⟩ <;> simp [Outcome.mapError]

omit [Hosted W] in
theorem mapError_eq_failed_iff {ε α : Type} {f : ε → RunError} {x : Action W ε α} {e : RunError} :
    x.mapError f w = (.failed e, w') ↔ ∃ e', x w = (.failed e', w') ∧ f e' = e := by
  unfold Action.mapError
  rcases x w with ⟨_ | _ | _, v⟩ <;> simp [Outcome.mapError, and_comm]

/-- An execution that is done has entered its rules. -/
theorem exists_entered {r' : RunResult}
    (done : plan.executeBy course registry reporter w = (.done r', w')) :
    ∃ rules entered u, registry.rulesOfRun plan.context = .done rules ∧
      Pipeline.enter ⟨.run, rules⟩ plan.context w = (.done entered, u) := by
  obtain ⟨started, _, clock, done⟩ := Action.bind_eq_done_iff.1 done
  cases clock
  obtain ⟨rules, _, configured, done⟩ := Action.bind_eq_done_iff.1 done
  obtain ⟨built, rfl⟩ := configured_eq_done_iff.1 configured
  obtain ⟨entered, u, enter, -⟩ := Action.bind_eq_done_iff.1 done
  exact ⟨rules, entered, u, built, mapError_eq_done_iff.1 enter⟩

/-- An execution that is done gathers a result while no pool fails, and its own is what comes of
that through the rules of the run. -/
theorem exists_gathers {r' : RunResult}
    (done : plan.executeBy course registry reporter w = (.done r', w')) :
    ∃ rules depth s r v, plan.Gathers course registry reporter w rules depth s r ∧
      failure? s.outcomes = none ∧
      Pipeline.unwind ⟨.run, rules⟩ plan.context r depth s.common.world = (.done r', v) := by
  obtain ⟨rules, ⟨depth, failure⟩, u, built, enter⟩ := exists_entered done
  rw [executeBy_eq plan course reporter built enter] at done
  cases failure with
  | some e =>
    obtain ⟨_, _, -, failed⟩ := Action.andThen_eq_done_iff.1 done
    cases failed
  | none =>
    obtain ⟨_, v, told, finished⟩ := Action.andThen_eq_done_iff.1 done
    dsimp only at finished
    generalize ended : course (.ofPlans v (plan.setting registry reporter).retry.total plan.pools) = s
      at finished
    cases failure : failure? s.outcomes with
    | some e =>
      rw [failure] at finished
      obtain ⟨_, _, -, failed⟩ := Action.andThen_eq_done_iff.1 finished
      cases failed
    | none =>
      rw [failure] at finished
      obtain ⟨r, x, unwound, last⟩ := Action.andThen_eq_done_iff.1 finished
      obtain ⟨_, _, -, last⟩ := Action.andThen_eq_done_iff.1 last
      cases last
      exact ⟨rules, depth, s, _, x, ⟨built, ⟨u, v, enter, told, ended.symm⟩, rfl⟩, failure,
        mapError_eq_done_iff.1 unwound⟩

end RunPlan

namespace RunState

variable [Hosted W] {setting : Setting W} {world : W} {quota : Nat} {plans : List PoolPlan}
  {s : RunState W}

/-- The results of a run are what its pools came to. -/
theorem Reachable.results_perm (reachable : Reachable setting (ofPlans world quota plans) s) :
    (RunPlan.results s.outcomes).Perm (s.pools.filterMap PoolState.result?) := by
  have kept := reachable.outcomes_perm.filterMap Except.toOption
  rw [List.filterMap_filterMap] at kept
  exact (RunPlan.results_perm s.outcomes).trans kept

/-- When every pool is over and none has failed, each has come to its own result or was ended by a
panic. -/
theorem Reachable.exists_result (reachable : Reachable setting (ofPlans world quota plans) s)
    (ended : s.isOver = true) (fine : RunPlan.failure? s.outcomes = none) {p : PoolState W}
    (hp : p ∈ s.pools) :
    (∃ r, p.result? = some r ∧ r.pool = p.id) ∨
      ∃ m, p.phase = .lost m ∧ setting.PoolPanics p.plan.pool m := by
  have ending := (reachable.ending hp).ending
  have atEnd := List.all_eq_true.1 ended p hp
  cases phase : p.phase with
  | finished o =>
    have known : o ∈ s.outcomes := reachable.outcomes_perm.mem_iff.2
      (List.mem_filterMap.2 ⟨p, hp, PoolState.outcome?_eq_some_iff.2 phase⟩)
    obtain ⟨r, rfl⟩ := RunPlan.exists_of_failure?_eq_none fine o known
    simp only [phase] at ending
    exact .inl ⟨r, PoolState.result?_eq_some_iff.2 phase, ending⟩
  | lost m =>
    simp only [phase] at ending
    exact .inr ⟨m, rfl, ending⟩
  | _ => simp [PoolState.isOver, phase] at atEnd

end RunState

/-- **No pool is missing from an execution that is done, but those that a panic ended.** The result
that its pools come to, which the rules of the run are then unwound over, has what each planned pool
came to, in ascending order of the names: every pool came to its own result, or a panic ended it
that came from building its rules, from one of them, or from the reporter. So where these do not
panic there is exactly one result for each planned pool. -/
theorem no_pool_missing [Hosted W] {plan : RunPlan W} {course : RunState W → RunState W}
    {registry : Registry W} {reporter : Reporter W}
    (courses : RunPlan.IsCourse (plan.setting registry reporter) plan.pools course) {w w' : W}
    {r' : RunResult} (done : plan.executeBy course registry reporter w = (.done r', w')) :
    ∃ rules depth s r v, plan.Gathers course registry reporter w rules depth s r ∧
      Pipeline.unwind ⟨.run, rules⟩ plan.context r depth s.common.world = (.done r', v) ∧
      r.pools.Pairwise (fun a b => b.pool.before a.pool = false) ∧
      r.pools.Perm (s.pools.filterMap PoolState.result?) ∧ s.pools.map (·.plan) = plan.pools ∧
      (∀ p ∈ s.pools, (∃ found, p.result? = some found ∧ found.pool = p.id) ∨
        ∃ m, p.phase = .lost m ∧ (plan.setting registry reporter).PoolPanics p.plan.pool m) ∧
      ((∀ planned ∈ plan.pools, ∀ m, ¬ (plan.setting registry reporter).PoolPanics planned.pool m) →
        (r.pools.map (·.pool)).Perm (plan.pools.map fun planned => planned.pool.id)) := by
  obtain ⟨rules, depth, s, r, v, gathers, fine, unwound⟩ := RunPlan.exists_gathers done
  obtain ⟨_, begun, -, -, course⟩ := gathers.entered
  obtain ⟨reachable, ended⟩ := courses begun
  rw [← course] at reachable ended
  have plans := reachable.plans_eq
  have perm : r.pools.Perm (s.pools.filterMap PoolState.result?) :=
    gathers.result ▸ reachable.results_perm
  have each : ∀ p ∈ s.pools, _ := fun p hp => reachable.exists_result ended fine hp
  refine ⟨rules, depth, s, r, v, gathers, unwound, ?_, perm, plans, each, fun quiet => ?_⟩
  · rw [gathers.result]
    exact RunPlan.results_ascend s.outcomes
  · have own : ∀ p ∈ s.pools, ∃ r, p.result? = some r ∧ r.pool = p.id := fun p hp =>
      (each p hp).resolve_right fun ⟨m, _, panics⟩ =>
        quiet p.plan (plans ▸ List.mem_map_of_mem hp) m panics
    have named := perm.map (·.pool)
    rwa [PoolState.map_pool_results own, PoolState.map_id_eq, plans] at named

/-! ## A pool that a panic ends -/

namespace Sample

/-- Passes every test, in the place of the backend that fails them. -/
def passing : Backend Host :=
  { backend with execute := fun ctx => .give (.ofStatus ctx.identity .pass default) }

/-- Panics before the first of the two pools. -/
def tripping : Rule Host PoolContext PoolResult where
  name := "tripping"
  before ctx := if ctx.pool.id.name = "first" then .crash "tripped" else .give ()
  after _ r := .give r

/-- The two pools, of which the second is planned first, with the rules on pools that are
configured. -/
def paired (rules : List PluginEntry) : RunPlan Host where
  context := ⟨default, { devices := default, suite := default, rules := { pool := rules } }, "", default⟩
  backends := [passing]
  pools := pair.reverse

/-- The registry of the rule. -/
def tripper : Registry Host := Registry.empty.withPoolRule "sample.rule" fun _ _ => .done [tripping]

/-- Whether an execution is done. -/
def isDone : Outcome RunError RunResult → Bool
  | .done _ => true
  | _ => false

theorem exists_of_isDone {x : Outcome RunError RunResult × Host} (h : isDone x.1 = true) :
    ∃ r, x = (.done r, x.2) := by
  obtain ⟨o, w⟩ := x
  cases o with
  | done r => exact ⟨r, rfl⟩
  | _ => cases h

/-- Where the run itself has no rules its pools take their course from the first. -/
theorem gathers_of_unruled {plan : RunPlan Host} {course : RunState Host → RunState Host}
    {registry : Registry Host} {w : Host} {rules : List (Rule Host RunContext RunResult)} {depth : Nat}
    {s : RunState Host} {r : RunResult} (unruled : registry.rulesOfRun plan.context = .done [])
    (gathers : plan.Gathers course registry .silent w rules depth s r) :
    rules = [] ∧ depth = 0 ∧
      s = course (.ofPlans w (plan.setting registry .silent).retry.total plan.pools) := by
  obtain rfl : rules = [] := by
    have built := gathers.built
    rw [unruled] at built
    cases built
    rfl
  obtain ⟨u, v, enter, told, same⟩ := gathers.entered
  cases enter
  cases told
  exact ⟨rfl, rfl, same⟩

/-- Where the run itself has no rules its pools are those that came to a result. -/
theorem pools_of_unruled {plan : RunPlan Host} {registry : Registry Host}
    (unruled : registry.rulesOfRun plan.context = .done []) {w w' : Host} {r : RunResult}
    (done : plan.execute registry .silent w = (.done r, w')) :
    r.pools.Perm ((RunState.play (plan.setting registry .silent)
      (.ofPlans w (plan.setting registry .silent).retry.total plan.pools)).outcomes.filterMap
        Except.toOption) := by
  obtain ⟨rules, depth, s, found, v, gathers, -, unwound⟩ := RunPlan.exists_gathers done
  obtain ⟨rfl, rfl, same⟩ := gathers_of_unruled unruled gathers
  cases unwound
  rw [gathers.result, ← same]
  exact RunPlan.results_perm _

/-- Whether the only pools with an outcome are of these names, and all their tests passed. -/
def passedOnly (names : List String) (outcomes : List (Except RunError PoolResult)) : Bool :=
  let found := outcomes.filterMap Except.toOption
  found.map (fun p => p.pool.name) == names &&
    found.all fun p => p.results.all fun r => r.status == .pass

theorem success_of_passes {r : RunResult} (passes : ∀ y ∈ r.results, y.status = .pass) :
    r.success = true := by
  have none {matching : TestStatus → Bool} (other : matching .pass = false) : r.count matching = 0 :=
    List.countP_eq_zero.2 fun y hy => by simp [passes y hy, other]
  simp [RunResult.success, RunResult.failed, RunResult.errors, none]

end Sample

open Sample in
/-- Both pools have a result. -/
theorem pools_of_pair : ∃ r' w' rules depth s r,
    (paired []).execute .empty .silent default = (.done r', w') ∧
      (paired []).Gathers (RunState.play ((paired []).setting .empty .silent)) .empty .silent default
        rules depth s r ∧
      (r.pools.map (·.pool)).Perm [⟨"second"⟩, ⟨"first"⟩] := by
  obtain ⟨r', done⟩ := exists_of_isDone (x := (paired []).execute .empty .silent default)
    (by decide +kernel)
  obtain ⟨rules, depth, s, r, v, gathers, -, -, -, -, -, all⟩ :=
    no_pool_missing (RunPlan.isCourse_play _ (paired []).pools) done
  refine ⟨r', _, rules, depth, s, r, done, gathers, all fun planned _ m panics => ?_⟩
  cases panics with
  | building panicked => cases panicked
  | ruling built hr =>
    cases built
    cases hr
  | reporting panicked => cases panicked

open Sample in
/-- Where a rule panics before the first pool the run is a success that has only the second. -/
theorem pool_missing_of_tripping : ∃ r w',
    (paired [⟨"sample.rule", none, []⟩]).execute tripper .silent default = (.done r, w') ∧
      tripper.rulesOfRun (paired [⟨"sample.rule", none, []⟩]).context = .done [] ∧
      (paired [⟨"sample.rule", none, []⟩]).pools.map (fun planned => planned.pool.id.name) =
        ["second", "first"] ∧
      r.pools.map (fun p => p.pool.name) = ["second"] ∧ r.success = true := by
  obtain ⟨r, done⟩ := exists_of_isDone
    (x := (paired [⟨"sample.rule", none, []⟩]).execute tripper .silent default) (by decide +kernel)
  have perm := pools_of_unruled rfl done
  have passed : passedOnly ["second"] (RunState.play
      ((paired [⟨"sample.rule", none, []⟩]).setting tripper .silent)
      (.ofPlans default ((paired [⟨"sample.rule", none, []⟩]).setting tripper .silent).retry.total
        (paired [⟨"sample.rule", none, []⟩]).pools)).outcomes = true := by decide +kernel
  simp only [passedOnly, Bool.and_eq_true, beq_iff_eq, List.all_eq_true] at passed
  refine ⟨r, _, done, rfl, rfl, ?_, success_of_passes fun y hy => ?_⟩
  · have names := perm.map fun p : PoolResult => p.pool.name
    rw [passed.1] at names
    exact List.perm_singleton.1 names
  · obtain ⟨x, hx, hy⟩ := List.mem_flatMap.1 hy
    exact passed.2 x (perm.mem_iff.1 hx) y hy

end TestFleet
