import TestFleet.Run.Worker
import TestFleet.Run.Error
import TestFleet.Work.Plan
/-!
# Pools at work

A pool enters its rules, lets one worker for each of its devices work on one queue, takes note of
the workers' ends, accounts for the items that no device was left for, and unwinds its rules. A
pool that fails calls the run off, except where its rules cannot be built or a rule changes the
identity of the pool's result: these end the pool alone.
-/
namespace TestFleet

/-- What a pool is at. -/
inductive PoolPhase where
  | planned
  /-- A rule refused the pool; the run is to be called off. -/
  | refused (error : RunError)
  /-- Its workers are at work. -/
  | working
  /-- Gives its scope up. -/
  | aborting (error : RunError) (result : PoolResult)
  /-- Accounts for the items that are left. -/
  | accounting (left : List WorkItem) (unreachable : Nat)
  /-- Leaves its scope. -/
  | closing (result : PoolResult)
  | finished (outcome : Except RunError PoolResult)
  /-- A panic ended it. -/
  | lost (message : String)
  deriving Inhabited

/-- A pool while the run lasts. -/
structure PoolState (W : Type) where
  plan : PoolPlan
  /-- The rules of the pool. -/
  rules : List (Rule W PoolContext PoolResult)
  /-- How many of them were entered. -/
  depth : Nat
  queue : WorkQueue
  collector : Collector
  workers : List (Worker W)
  /-- What the devices did whose workers have ended, as far as the pool knows. -/
  devices : List DeviceSummary
  /-- The first error of a worker that the pool took note of. -/
  fatal : Option PipelineError
  phase : PoolPhase

/-- What is shared by all pools of a run. -/
structure Common (W : Type) where
  world : W
  budget : RetryBudget
  /-- Whether the run was called off. -/
  cancelled : Bool

namespace PoolState

variable {W : Type}

/-- A pool before its first step. -/
def ofPlan (plan : PoolPlan) : PoolState W :=
  ⟨plan, [], 0, WorkQueue.ofItems plan.items, .empty, plan.pool.devices.map .ofDevice, [], none,
    .planned⟩

/-- The rules of the pool as a pipeline. -/
def pipeline (p : PoolState W) : Pipeline W PoolContext PoolResult := ⟨.pool, p.rules⟩

/-- The pool in another phase. -/
def at_ (p : PoolState W) (phase : PoolPhase) : PoolState W := { p with phase }

/-- The name of the pool. -/
def id (p : PoolState W) : PoolId := p.plan.pool.id

/-- Whether nothing more happens in the pool. -/
def isOver (p : PoolState W) : Bool :=
  match p.phase with | .finished _ | .lost _ => true | _ => false

/-- The devices in ascending order of their serials. -/
def sortedDevices (p : PoolState W) : List DeviceSummary :=
  p.devices.mergeSort fun a b => !b.device.before a.device

/-- The result of the pool as things stand. -/
def resultSoFar (p : PoolState W) (unreachable : Nat) : PoolResult :=
  ⟨p.id, p.collector.results, p.collector.retried, unreachable, p.sortedDevices⟩

/-- What is said of an item that no device is left for. -/
def unreachableTrace : String := "no device of the pool was left to run this test"

/-- The device that an item is booked on that no device ran: one that might have run it, or else
the first one. -/
def bookedOn (pool : DevicePool) (item : WorkItem) : DeviceId :=
  ((pool.deviceIds.find? item.compatible) <|> pool.deviceIds.head?).getD ⟨"none"⟩

/-- The result of an item that no device ran. -/
def unreachableResult (pool : DevicePool) (item : WorkItem) (now : Time.Moment) : TestResult :=
  TestResult.ofError ⟨pool.id, bookedOn pool item, item.test⟩ now now unreachableTrace

/-- The final result of an item that is left: the latest superseded attempt at its test, if it
waited for a retry and there is one. -/
def settleLeft (p : PoolState W) (item : WorkItem) (now : Time.Moment) :
    TestResult × Collector × Bool :=
  let reclaimed := if item.failures = 0 then none else p.collector.reclaim? item.key
  match reclaimed with
  | some (r, collector) => (r, collector, false)
  | none => (unreachableResult p.plan.pool item now, p.collector, true)

/-- Why a pool fails whose workers have all ended, if it fails. -/
def failure? (p : PoolState W) (cancelled : Bool) : Option RunError :=
  match p.fatal with
  | some e => some (.pipeline e)
  | none => if cancelled then some .aborted else none

variable [Hosted W]

/-- What a step makes of a pool and of what it shares with others. -/
abbrev Moved (W : Type) := PoolState W × Common W

/-- Builds the rules of the pool and enters them. -/
def start (setting : Setting W) (ctx : PoolContext) (p : PoolState W) (world : W) :
    PoolState W × W :=
  match setting.registry.rulesOfPool ctx with
  | .failed e => (p.at_ (.finished (.error (.config e))), world)
  | .panicked m => (p.at_ (.lost m), world)
  | .done rules =>
    let p := { p with rules }
    match p.pipeline.enter ctx world with
    | (.done entered, world) =>
      let p := { p with depth := entered.depth }
      match entered.failure with
      | none => (p.at_ .working, world)
      | some e => (p.at_ (.refused (.pipeline e)), world)
    | (.failed e, world) => (p.at_ (.refused (.pipeline e)), world)
    | (.panicked m, world) => (p.at_ (.lost m), world)

/-- Unwinds the rules of the pool when it fails. -/
def abort (ctx : PoolContext) (error : RunError) (result : PoolResult) (p : PoolState W)
    (world : W) : PoolState W × W :=
  match p.pipeline.release (ε := Empty) ctx result p.depth world with
  | (.panicked m, world) => (p.at_ (.lost m), world)
  | (_, world) => (p.at_ (.finished (.error error)), world)

/-- Unwinds the rules of the pool. -/
def close (ctx : PoolContext) (result : PoolResult) (p : PoolState W) (world : W) :
    PoolState W × W :=
  match p.pipeline.unwind ctx result p.depth world with
  | (.done r, world) => (p.at_ (.finished (.ok r)), world)
  | (.failed e, world) => (p.at_ (.finished (.error (.pipeline e))), world)
  | (.panicked m, world) => (p.at_ (.lost m), world)

/-- Reports and keeps the final result of an item that is left. -/
def account (setting : Setting W) (item : WorkItem) (left : List WorkItem) (unreachable : Nat)
    (p : PoolState W) (world : W) : PoolState W × W :=
  let (r, collector, isUnreachable) := p.settleLeft item (Hosted.now world)
  match setting.reporter.tested r world with
  | (.panicked m, world) => ({ p with collector }.at_ (.lost m), world)
  | (_, world) =>
    let count := if isUnreachable then unreachable + 1 else unreachable
    ({ p with collector := collector.push r }.at_ (.accounting left count), world)

/-- The next step of the pool itself, if it can make one. -/
def step (setting : Setting W) (p : PoolState W) (c : Common W) : Option (Moved W) :=
  let ctx : PoolContext := ⟨setting.context, p.plan.pool⟩
  match p.phase with
  | .planned =>
    let (p, world) := p.start setting ctx c.world
    some (p, { c with world })
  | .refused e => some (p.at_ (.aborting e (.ofPool p.id)), { c with cancelled := true })
  | .working =>
    if p.workers.all (·.isGone) then
      match p.failure? c.cancelled with
      | some e => some (p.at_ (.aborting e (p.resultSoFar 0)), c)
      | none =>
        let (left, queue) := p.queue.drain
        some ({ p with queue }.at_ (.accounting left 0), c)
    else none
  | .aborting e r =>
    let (p, world) := p.abort ctx e r c.world
    some (p, { c with world })
  | .accounting [] unreachable => some (p.at_ (.closing (p.resultSoFar unreachable)), c)
  | .accounting (item :: left) unreachable =>
    let (p, world) := p.account setting item left unreachable c.world
    some (p, { c with world })
  | .closing r =>
    let (p, world) := p.close ctx r c.world
    some (p, { c with world })
  | .finished _ | .lost _ => none

/-- A step of a worker of the pool, if it can make that move. -/
def stepWorker (setting : Setting W) (i : Nat) (move : WorkerMove) (p : PoolState W)
    (c : Common W) : Option (Moved W) :=
  match p.phase, p.workers[i]? with
  | .working, some worker =>
    let shared : Shared W := ⟨c.world, c.budget, c.cancelled, p.queue, p.collector⟩
    (worker.step setting ⟨setting.context, p.plan.pool⟩ move shared).map fun (worker, s) =>
      ({ p with workers := p.workers.set i worker, queue := s.queue, collector := s.collector },
        ⟨s.world, s.budget, s.cancelled⟩)
  | _, _ => none

/-- Takes note of the end of a worker, if it has ended. An error calls the run off. -/
def join (i : Nat) (p : PoolState W) (c : Common W) : Option (Moved W) :=
  match p.phase, p.workers[i]? with
  | .working, some worker =>
    match worker.phase with
    | .stopped outcome =>
      let p := { p with workers := p.workers.set i (worker.at_ .gone) }
      match outcome with
      | .ok summary => some ({ p with devices := p.devices ++ [summary] }, c)
      | .error e => some ({ p with fatal := p.fatal <|> some e }, { c with cancelled := true })
    | _ => none
  | _, _ => none

end PoolState

end TestFleet
