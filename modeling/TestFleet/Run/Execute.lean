import TestFleet.Run.Machine
import TestFleet.Run.Plan
/-!
# Executing a plan

The rules of the run are entered, the pools run, and the rules are unwound over the result. If a
pool failed, the rules are unwound all the same, and the run fails with the first error that is not
only the echo of another pool's. How the pools run is open in `executeBy`: any course will do that
leads them to their end.
-/
namespace TestFleet

namespace RunPlan

variable {W : Type}

/-- The error that a run fails with: of those that were met so far and the next one, the first that
is not an echo. -/
def graver (met : Option RunError) (next : RunError) : Option RunError :=
  match met, next with
  | none, e => some e
  | some .aborted, .aborted => some .aborted
  | some .aborted, e => some e
  | some e, _ => some e

/-- The error that a run fails with. -/
def failure? (outcomes : List (Except RunError PoolResult)) : Option RunError :=
  outcomes.foldl (fun met outcome =>
    match outcome with
    | .ok _ => met
    | .error e => graver met e) none

/-- The results of the pools that did not fail, in ascending order of their names. -/
def results (outcomes : List (Except RunError PoolResult)) : List PoolResult :=
  let found := outcomes.filterMap fun o => match o with | .ok r => some r | .error _ => none
  found.mergeSort fun a b => !b.pool.before a.pool

/-- The result of the run. -/
def result (plan : RunPlan W) (pools : List PoolResult) (started finished : Time.Moment)
    (retriesUsed : Nat) : RunResult :=
  ⟨plan.context.runId, pools, started.spanUntil finished, plan.context.config.run.ignoreFailures,
    retriesUsed⟩

variable [Hosted W]

/-- The setting of the run. -/
def setting (plan : RunPlan W) (registry : Registry W) (reporter : Reporter W) : Setting W :=
  ⟨plan.context, registry, plan.backends, reporter⟩

/-- Tells a reporter something. -/
def tell (x : Action W Empty Unit) : Action W RunError Unit := x.mapError Empty.elim

/-- Runs the pools of a plan on a course. -/
def runPools (plan : RunPlan W) (course : RunState W → RunState W) (setting : Setting W) :
    Action W RunError (List (Except RunError PoolResult) × Nat) := fun w =>
  let s := course (RunState.ofPlans w setting.retry.total plan.pools)
  (.done (s.outcomes, s.common.budget.used), s.common.world)

/-- Executes a plan of which the pools take a course. -/
def executeBy (plan : RunPlan W) (course : RunState W → RunState W) (registry : Registry W)
    (reporter : Reporter W) : Action W RunError RunResult := do
  let ctx := plan.context
  let started ← Hosted.clock
  let rules ← configured (registry.rulesOfRun ctx)
  let pipeline : Pipeline W RunContext RunResult := ⟨.run, rules⟩
  let entered ← (pipeline.enter ctx).mapError .pipeline
  match entered.failure with
  | some e =>
    let now ← Hosted.clock
    pipeline.release ctx (plan.result [] started now 0) entered.depth
    Action.fail (.pipeline e)
  | none =>
    tell (reporter.started plan.pools)
    let (outcomes, retriesUsed) ← plan.runPools course (plan.setting registry reporter)
    let now ← Hosted.clock
    let r := plan.result (results outcomes) started now retriesUsed
    match failure? outcomes with
    | some e =>
      pipeline.release ctx r entered.depth
      Action.fail e
    | none =>
      let r ← (pipeline.unwind ctx r entered.depth).mapError .pipeline
      tell (reporter.completed r)
      pure r

/-- Executes a plan of which the pools and their workers move in turns. -/
def execute (plan : RunPlan W) (registry : Registry W) (reporter : Reporter W) :
    Action W RunError RunResult :=
  plan.executeBy (RunState.play (plan.setting registry reporter)) registry reporter

/-- Plans a run and executes the plan. -/
def runConfig (registry : Registry W) (reporter : Reporter W) (config : Config) (id : RunId) :
    Action W RunError RunResult := do
  let plan ← ofConfig registry config id
  plan.execute registry reporter

end RunPlan

end TestFleet
