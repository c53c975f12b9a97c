import TestFleet.Proofs.Run.Execution
import TestFleet.Proofs.Run.Numbering
/-!
# Identities are kept

A worker keeps only results of its own attempts: of its pool, its device and the test of a planned item
(`RunState.Reachable.kept_own`). A backend or a rule that gives something of another identity
is not merely ignored: the run fails (`identities_kept`).
-/
namespace TestFleet

open WorkItem (Inherited)

variable {W : Type} [Hosted W] {setting : Setting W}

/-- What a worker keeps as it goes on with an item is of its attempt. -/
theorem StageChange.keeps_own {ctx : AttemptContext} {s s' : Shared W} {stage stage' : Stage}
    (h : StageChange setting ctx s stage stage' s') (sound : stage.Sound setting ctx) :
    s'.collector = s.collector ∨ ∃ r, r.identity = ctx.identity ∧
      (s'.collector = s.collector.push r ∨ s'.collector = s.collector.pushRetried r) := by
  cases h with
  | stashed => exact .inr ⟨_, sound, .inr rfl⟩
  | kept => exact .inr ⟨_, sound, .inl rfl⟩
  | _ => exact .inl rfl

/-- An item is of a planned item's test, in all that the test is. -/
def PoolPlan.Plans (plan : PoolPlan) (x : WorkItem) : Prop := ∃ first ∈ plan.items, x.test = first.test

theorem PoolPlan.inherited_plans (plan : PoolPlan) (settings : RetrySettings) :
    Inherited settings plan.pool plan.Plans := fun _ _ _ ⟨first, hfirst, same⟩ =>
  ⟨first, hfirst, WorkItem.test_nextAttempt.trans same⟩

namespace RunState

variable {world : W} {quota i j : Nat} {plans : List PoolPlan} {s t : RunState W} {plan : PoolPlan}
  {move : WorkerMove}

/-- **A worker keeps only what is its own.** -/
theorem Reachable.kept_own (reachable : Reachable setting (ofPlans world quota plans) s)
    (planned : plans[i]? = some plan) (stepped : s.step setting (.worker i j move) = some t) :
    ∃ p p' v, s.pools[i]? = some p ∧ t.pools[i]? = some p' ∧ p.workers[j]? = some v ∧
      v.device ∈ plan.pool.devices ∧
      (p'.collector = p.collector ∨ ∃ x stage r, v.phase = .busy x stage ∧ plan.Plans x ∧
        r.identity = ⟨plan.pool.id, v.device.id, x.test⟩ ∧
        (p'.collector = p.collector.push r ∨ p'.collector = p.collector.pushRetried r)) := by
  obtain ⟨p, p', c', at_i, change, rfl⟩ := reachable.step_eq_some stepped
  obtain ⟨history, trace⟩ := reachable.trace
  have sound := (trace.recorded at_i).2.sound
  have own := reachable.planned at_i
  obtain rfl := Option.some.inj (planned.symm.trans own)
  have inside := (List.getElem?_eq_some_iff.1 at_i).1
  cases change with
  | @worker j w w' s' phase at_j change =>
    have hw := List.mem_of_getElem? at_j
    have device : w.device ∈ p.plan.pool.devices := by
      rw [← (reachable.settled at_i).staffed]
      exact List.mem_map_of_mem hw
    refine ⟨p, _, w, at_i, List.getElem?_set_self inside, at_j, device, ?_⟩
    cases change.effect with
    | none idle idle' queue collector => exact .inl collector
    | take idle phase' claimed collector => exact .inl collector
    | drop phase spent idle' items collector => exact .inl collector
    | @work x stage stage' busy busy' change =>
      have soundStage : stage.Sound setting ⟨⟨⟨setting.context, p.plan.pool⟩, w.device⟩, x⟩ := by
        have sound := sound w hw
        simpa only [Worker.Sound, busy] using sound
      rcases change.keeps_own soundStage with same | ⟨r, identity, kept⟩
      · exact .inl same
      · refine .inr ⟨x, stage, r, busy, ?_, identity, kept⟩
        have held : x ∈ p.inPlay :=
          PoolState.mem_inPlay.2 (.inr ⟨w, hw, by simp [Worker.holding, busy]⟩)
        refine (trace.inherits planned (p.plan.inherited_plans _) (fun x hx => ?_) at_i).2 x held
        exact ⟨x, (WorkQueue.firsts_sublist _).subset hx, rfl⟩

end RunState

/-- **Identities are kept, and who changes one ends the run.** Whatever backends and rules do, a worker
keeps only results of its own attempts. And what an execution does to the world is done by calls; if
one of these gives a value of another identity the execution fails. So where a flag of the world is
raised just by such calls, an execution that raises it fails. -/
theorem identities_kept {plan : RunPlan W} {course : RunState W → RunState W} {registry : Registry W}
    {reporter : Reporter W} (calm : registry.IsCalm) (told : reporter.IsCalm)
    (courses : RunPlan.IsCourse (plan.setting registry reporter) plan.pools course) (w : W) :
    (∀ world quota s t i j move planned,
      RunState.Reachable (plan.setting registry reporter) (.ofPlans world quota plan.pools) s →
      plan.pools[i]? = some planned →
      s.step (plan.setting registry reporter) (.worker i j move) = some t →
      ∃ p p' v, s.pools[i]? = some p ∧ t.pools[i]? = some p' ∧ p.workers[j]? = some v ∧
        v.device ∈ planned.pool.devices ∧
        (p'.collector = p.collector ∨ ∃ x stage r, v.phase = .busy x stage ∧ planned.Plans x ∧
          r.identity = ⟨planned.pool.id, v.device.id, x.test⟩ ∧
          (p'.collector = p.collector.push r ∨ p'.collector = p.collector.pushRetried r))) ∧
    ∃ calls, Path (Call.Made (plan.setting registry reporter) plan.pools) w calls
        (plan.executeBy course registry reporter w).2 ∧
      (AnyForeign calls → ∃ e, (plan.executeBy course registry reporter w).1 = .failed e) ∧
      ∀ flag : W → Bool,
        (∀ call v v', Call.Made (plan.setting registry reporter) plan.pools call v v' →
          flag v' = (flag v || call.foreign)) →
        flag w = false → flag (plan.executeBy course registry reporter w).2 = true →
        ∃ e, (plan.executeBy course registry reporter w).1 = .failed e := by
  refine ⟨fun world quota s t i j move planned reachable at_i stepped =>
    reachable.kept_own at_i stepped, ?_⟩
  obtain ⟨o, v, calls, eq, path, fails, -⟩ := RunPlan.exists_calls calm told courses w
  rw [eq]
  refine ⟨calls, path, fails, fun flag raised down up => fails (List.any_eq_true.1 ?_)⟩
  rwa [path.raised raised, down, Bool.false_or] at up

/-! ## A backend that answers for another pool -/

namespace Sample

/-- Answers for another pool, and prints that it does. -/
def impostor : Backend Host :=
  { backend with
    execute := fun ctx => (Action.change (·.print "another pool")).andThen fun _ =>
      .give (.ofStatus { ctx.identity with pool := ⟨ctx.pool.id.name ++ " "⟩ } .pass default) }

/-- One device, one test, and the backend that answers for another pool. -/
def impersonated : RunPlan Host where
  context := ⟨default, { devices := default, suite := default }, "", default⟩
  backends := [impostor]
  pools := [⟨⟨⟨"sample"⟩, [device "a"]⟩, [item]⟩]

theorem isCalm_empty : (Registry.empty : Registry Host).IsCalm :=
  Registry.isCalm_of_factories nofun nofun nofun nofun

theorem impostor_isForeign (ctx : AttemptContext) (w : Host) :
    (impostor.execute ctx w).1.isForeign (R := TestResult) ctx.identity = true := by
  refine decide_eq_true fun same => ?_
  have same : ctx.pool.id.name ++ " " = ctx.pool.id.name :=
    congrArg (fun (identity : ResultIdentity) => identity.pool.name) same
  simp at same

theorem flag_of_made {call : Call} {w v : Host}
    (made : Call.Made (impersonated.setting .empty .silent) impersonated.pools call w v) :
    (!v.printed.isEmpty) = (!w.printed.isEmpty || call.foreign) := by
  cases made with
  | ofRun built called =>
    cases built
    cases called <;> contradiction
  | ofPool planned built called =>
    cases built
    cases called <;> contradiction
  | ofDevice planned listed built called =>
    cases built
    cases called <;> contradiction
  | ofAttempt planned listed own called =>
    subst own
    obtain ⟨rfl, native⟩ := called.of_timingRule
    rw [RuleCall.at_, native, Bool.or_false]
  | @ofBackend i j n item started plan device ctx backend w planned listed own known =>
    obtain rfl := List.mem_singleton.1 known
    rw [AttemptContext.answer, Hosted.within_of_still rfl, Option.any_some, impostor_isForeign,
      Bool.or_true]
    rfl
  | ofReporter told => cases told <;> exact (Bool.or_false _).symm

end Sample

open Sample in
/-- The backend answers for another pool, and the run fails. -/
theorem identities_of_impersonated :
    ∃ e, (impersonated.execute .empty .silent default).1 = .failed e := by
  have raised : (!(impersonated.execute .empty .silent default).2.printed.isEmpty) = true := by
    decide +kernel
  rw [RunPlan.execute_eq] at raised ⊢
  obtain ⟨-, calls, -, -, flagged⟩ := identities_kept isCalm_empty isCalm_silent
    (RunPlan.isCourse_play _ impersonated.pools) default
  exact flagged (fun w => !w.printed.isEmpty) (fun _ _ _ => flag_of_made) rfl raised

end TestFleet
