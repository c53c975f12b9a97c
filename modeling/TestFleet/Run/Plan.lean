import TestFleet.Run.Error
import TestFleet.Plugin.Registry
import TestFleet.Pooling
import TestFleet.Work.Plan
/-!
# Planning a run

A plan resolves everything that a run needs before anything is scheduled: identifiers, devices,
pools, backends and suites. The rules of every scope are built once for the plan, so that an entry
that no rule can be built from is found now.
-/
namespace TestFleet

/-- Everything resolved before a run starts. -/
structure RunPlan (W : Type) where
  context : RunContext
  backends : List (Backend W)
  pools : List PoolPlan

namespace RunPlan

variable {W : Type}

/-- A step of planning that may find the configuration wrong. -/
def configured {α : Type} (o : Outcome ConfigError α) : Action W RunError α :=
  .ofOutcome (o.mapError .config)

/-- Checks a configuration, lists its devices and puts them into pools. -/
def discover (registry : Registry W) (config : Config) : Action W RunError (List DevicePool) := do
  configured (.ofExcept config.validate)
  configured (.ofExcept (registry.validate config))
  let provider ← configured (registry.provider config.devices)
  let devices ← provider.devices.mapError .provider
  configured (.ofExcept (Pooling.partition config.pooling devices))

/-- Builds the rules that the first device of a pool and its first item would have. -/
def preflight (registry : Registry W) (ctx : PoolContext) (items : List WorkItem) :
    Outcome ConfigError Unit :=
  match ctx.pool.devices with
  | [] => .done ()
  | device :: _ =>
    (registry.rulesOfDevice ⟨ctx, device⟩).andThen fun _ =>
      match items with
      | [] => .done ()
      | item :: _ => (registry.rulesOfAttempt ⟨⟨ctx, device⟩, item⟩).map fun _ => ()

variable [Hosted W]

/-- The suite of a pool, read from the files as they are now. -/
def loadSuite (source : SuiteSource) (pool : DevicePool) : Action W RunError (List WorkItem) :=
  fun w =>
    let loaded := Suite.load source (Hosted.host w).files pool
    ((Outcome.ofExcept loaded).mapError (.suite pool.id), w)

/-- Plans a pool. -/
def ofPool (registry : Registry W) (context : RunContext) (backends : List (Backend W))
    (pool : DevicePool) : Action W RunError PoolPlan := do
  let ctx : PoolContext := ⟨context, pool⟩
  let _ ← configured (registry.rulesOfPool ctx)
  let loaded ← loadSuite context.config.suite pool
  let reshaping ← configured (registry.rulesOfSuite ctx)
  let items := reshaping.foldl (fun items rule => rule.apply ctx items) loaded
  let ready ← configured (.ofExcept (Suite.prepare pool items backends))
  configured (preflight registry ctx ready)
  pure ⟨pool, ready⟩

/-- Plans a run. -/
def ofConfig (registry : Registry W) (config : Config) (id : RunId) :
    Action W RunError (RunPlan W) := do
  let pools ← discover registry config
  let backends ← configured (Outcome.collect registry.backend config.backends)
  let host ← Action.world (W := W)
  let context := RunContext.ofConfig config id (Hosted.host host)
  let _ ← configured (registry.rulesOfRun context)
  let plans ← Action.collect (ofPool registry context backends) pools
  pure ⟨context, backends, plans⟩

end RunPlan

end TestFleet
