import TestFleet.Run.Attempt
import TestFleet.Work.Queue
import TestFleet.Work.Retry
import TestFleet.Work.Collector
/-!
# Workers

A device of a pool has a worker, which enters the rules of the device, takes items from the queue
of the pool for as long as any can come, and unwinds the rules. A worker moves in steps, between
which other workers may move: `Worker.step` says what a step does to what the workers share. While
a worker is busy its item counts as in flight.
-/
namespace TestFleet

/-- How far a worker is with an item that it holds. -/
inductive Stage where
  /-- The attempt has not been made. -/
  | attempting
  /-- It is to be decided whether the result is final. -/
  | deciding (result : TestResult)
  /-- The next attempt is to be offered to the queue. -/
  | offering (next : WorkItem) (result : TestResult)
  /-- The next attempt was offered; the result is to be kept as superseded. -/
  | stashing (result : TestResult)
  /-- The final result is to be reported; `rescued` if a panic led here. -/
  | announcing (result : TestResult) (rescued : Bool)
  /-- The final result was reported and is to be kept. -/
  | keeping (result : TestResult)
  /-- The item is accounted for, or the run must end. -/
  | releasing (fatal : Option PipelineError)
  /-- A panic is leaving the worker. -/
  | crashing (message : String)
  deriving Inhabited

/-- What a worker is at. -/
inductive WorkerPhase where
  | starting
  /-- Looks for an item. -/
  | idle
  | busy (item : WorkItem) (stage : Stage)
  /-- Calls the run off. -/
  | cancelling (fatal : PipelineError)
  /-- Gives its scope up. -/
  | abandoning (fatal : PipelineError)
  /-- Leaves its scope. -/
  | leaving
  /-- Has ended; the pool has not taken note of it. -/
  | stopped (outcome : Except PipelineError DeviceSummary)
  /-- Has ended, and the pool has taken note of it. -/
  | gone
  deriving Inhabited

/-- What a worker can do next. -/
inductive WorkerMove where
  /-- Looks for an item, and takes it from the queue. -/
  | claim
  /-- Takes note that the run was called off. -/
  | heed
  /-- Takes note that no item can come any more. -/
  | quit
  /-- Goes on with what it is at. -/
  | proceed
  deriving DecidableEq, Repr, Inhabited

/-- A worker. -/
structure Worker (W : Type) where
  device : Device
  /-- The attempts that it finished. -/
  executed : Nat
  /-- Why it takes no work, if it takes none. -/
  retired : Option String
  /-- The rules of its device. -/
  rules : List (Rule W DeviceContext DeviceSummary)
  /-- How many of them were entered. -/
  depth : Nat
  phase : WorkerPhase

/-- What the workers of a pool share. -/
structure Shared (W : Type) where
  world : W
  budget : RetryBudget
  cancelled : Bool
  queue : WorkQueue
  collector : Collector

namespace Worker

variable {W : Type}

/-- A worker before its first step. -/
def ofDevice (device : Device) : Worker W := ⟨device, 0, none, [], 0, .starting⟩

/-- What the device did. -/
def summary (w : Worker W) : DeviceSummary := ⟨w.device.id, w.executed, w.retired⟩

/-- What is told of a device whose worker panicked. -/
def crashed (w : Worker W) (message : String) : DeviceSummary :=
  ⟨w.device.id, 0, some ("worker panicked: " ++ message)⟩

/-- The rules of the device as a pipeline. -/
def pipeline (w : Worker W) : Pipeline W DeviceContext DeviceSummary := ⟨.device, w.rules⟩

/-- The worker in another phase. -/
def at_ (w : Worker W) (phase : WorkerPhase) : Worker W := { w with phase }

/-- Whether the worker holds an item. -/
def isBusy (w : Worker W) : Bool := match w.phase with | .busy .. => true | _ => false

/-- Whether the pool has taken note of the worker's end. -/
def isGone (w : Worker W) : Bool := match w.phase with | .gone => true | _ => false

/-- The ERROR result of an attempt that a panic ended. -/
def rescue (ctx : AttemptContext) (message : String) (now : Time.Moment) : TestResult :=
  TestResult.ofError ctx.identity now now ("worker panicked: " ++ message)

variable [Hosted W]

/-- Builds the rules of the device and enters them. -/
def start (setting : Setting W) (ctx : DeviceContext) (w : Worker W) (world : W) :
    Worker W × W :=
  match setting.registry.rulesOfDevice ctx with
  | .failed e =>
    let w := { w with retired := some e.message }
    (w.at_ (.stopped (.ok w.summary)), world)
  | .panicked m => (w.at_ (.stopped (.ok (w.crashed m))), world)
  | .done rules =>
    let w := { w with rules }
    match w.pipeline.enter ctx world with
    | (.done entered, world) =>
      let w := { w with depth := entered.depth }
      match entered.failure with
      | none => (w.at_ .idle, world)
      | some e => ({ w with retired := some e.message, phase := .leaving }, world)
    | (.failed e, world) => (w.at_ (.stopped (.error e)), world)
    | (.panicked m, world) => (w.at_ (.stopped (.ok (w.crashed m))), world)

/-- Unwinds the rules of the device. -/
def leave (ctx : DeviceContext) (w : Worker W) (world : W) : Worker W × W :=
  match w.pipeline.unwind ctx w.summary w.depth world with
  | (.done summary, world) => (w.at_ (.stopped (.ok summary)), world)
  | (.failed e, world) => (w.at_ (.stopped (.error e)), world)
  | (.panicked m, world) => (w.at_ (.stopped (.ok (w.crashed m))), world)

/-- Unwinds the rules of the device when the run must end. -/
def abandon (ctx : DeviceContext) (fatal : PipelineError) (w : Worker W) (world : W) :
    Worker W × W :=
  match w.pipeline.release (ε := Empty) ctx w.summary w.depth world with
  | (.panicked m, world) => (w.at_ (.stopped (.ok (w.crashed m))), world)
  | (_, world) => (w.at_ (.stopped (.error fatal)), world)

/-- What a step makes of a worker and of what it shares with others. -/
abbrev Moved (W : Type) := Worker W × Shared W

/-- A worker puts its item down and goes on as another. If nothing is in flight that is a panic. -/
def putDown (w next : Worker W) (s : Shared W) : Moved W :=
  match s.queue.release? with
  | some queue => (next, { s with queue })
  | none => (w.at_ (.stopped (.ok (w.crashed WorkQueue.overdrawnText))), s)

/-- The next step of a worker that holds an item. -/
def stepBusy (setting : Setting W) (ctx : AttemptContext) (stage : Stage) (w : Worker W)
    (s : Shared W) : Moved W :=
  let next (stage : Stage) : Worker W := w.at_ (.busy ctx.item stage)
  match stage with
  | .attempting =>
    match ctx.run setting s.world with
    | (.done r, world) => (next (.deciding r), { s with world })
    | (.failed e, world) => (next (.releasing (some e)), { s with world })
    | (.panicked m, world) =>
      (next (.announcing (rescue ctx m (Hosted.now world)) true), { s with world })
  | .deciding r =>
    match ctx.item.retry? setting.retry r ctx.pool s.budget with
    | some (item, budget) => (next (.offering item r), { s with budget })
    | none => (next (.announcing r false), s)
  | .offering item r =>
    match s.queue.offer item with
    | .ok queue => (next (.stashing r), { s with queue })
    | .error _ => (next (.announcing r false), s)
  | .stashing r => (next (.releasing none), { s with collector := s.collector.pushRetried r })
  | .announcing r rescued =>
    match setting.reporter.tested r s.world with
    | (.panicked m, world) =>
      let stage := if rescued then Stage.crashing m
        else .announcing (rescue ctx m (Hosted.now world)) true
      (next stage, { s with world })
    | (_, world) => (next (.keeping r), { s with world })
  | .keeping r => (next (.releasing none), { s with collector := s.collector.push r })
  | .releasing fatal =>
    let phase := match fatal with | some e => .cancelling e | none => .idle
    w.putDown ({ w with executed := w.executed + 1 }.at_ phase) s
  | .crashing m => w.putDown (w.at_ (.stopped (.ok (w.crashed m)))) s

/-- A worker looks for an item. A wait that leads past the end of the clock is a panic, also where
there is an item to take. -/
def poll (settings : RunSettings) (w : Worker W) (s : Shared W) : Option (Moved W) :=
  if settings.pollTimeout.isBeyondClock then
    some (w.at_ (.stopped (.ok (w.crashed Time.Span.beyondClockText))), s)
  else
    (s.queue.claim? w.device.id).map fun (item, queue) =>
      (w.at_ (.busy item .attempting), { s with queue })

/-- Whether a worker that looks for an item finds that none can come any more. -/
def isDone (settings : RunSettings) (w : Worker W) (s : Shared W) : Bool :=
  !settings.pollTimeout.isBeyondClock && s.queue.exhaustedFor w.device.id

/-- A step of a worker, if it can make that move. -/
def step (setting : Setting W) (pool : PoolContext) (move : WorkerMove) (w : Worker W)
    (s : Shared W) : Option (Moved W) :=
  let ctx : DeviceContext := ⟨pool, w.device⟩
  match move, w.phase with
  | .claim, .idle => w.poll ctx.config.run s
  | .heed, .idle => if s.cancelled then some (w.at_ .leaving, s) else none
  | .quit, .idle => if w.isDone ctx.config.run s then some (w.at_ .leaving, s) else none
  | .proceed, .starting =>
    let (w, world) := w.start setting ctx s.world
    some (w, { s with world })
  | .proceed, .busy item stage => some (stepBusy setting ⟨ctx, item⟩ stage w s)
  | .proceed, .cancelling e => some (w.at_ (.abandoning e), { s with cancelled := true })
  | .proceed, .abandoning e =>
    let (w, world) := w.abandon ctx e s.world
    some (w, { s with world })
  | .proceed, .leaving =>
    let (w, world) := w.leave ctx s.world
    some (w, { s with world })
  | _, _ => none

end Worker

end TestFleet
