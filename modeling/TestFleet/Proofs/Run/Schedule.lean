import TestFleet.Proofs.Run.Allowance
import TestFleet.Proofs.Run.InTurn
import TestFleet.Proofs.Run.StepCalls
/-!
# Runs do not depend on their schedule

Whoever moves when, and on whichever devices: where the attempts are answered as foretold, no device is
retired and the budget suffices, a run comes to the same results. At any time what its pools have
recorded of their attempts, and what the forecast has for the items that are queued and in hand, is what
the forecast had for the planned items (`PoolState.Foretold`). At the end nothing is queued or in hand,
so what is recorded then is what is recorded when the items are run in turn (`schedule_independent`).
-/
namespace TestFleet

open RunState (Past History)
open WorkItem (Distinct Inherited)

variable {W : Type} {f : Forecast}

/-! ## Items in hand -/

namespace Forecast

/-- What is to be recorded of the attempts at an item at a stage. -/
def ofStage (f : Forecast) (item : WorkItem) : Stage → List AttemptRecord
  | .attempting | .deciding _ => f.ofItem item
  | .offering next r => r.record false :: f.ofItem next
  | .stashing r => [r.record false]
  | .announcing r _ | .keeping r => [r.record true]
  | .releasing _ | .crashing _ => []

/-- The stage is one that an item can come to whose attempts are answered as foretold. -/
def Allows (f : Forecast) (item : WorkItem) : Stage → Prop
  | .deciding r => f.answer item.key item.failures = some r.status
  | .releasing (some _) | .crashing _ => False
  | _ => True

/-- What is recorded and to be recorded: of the queued items, of those in hand, and of what is
collected. -/
def ledger (f : Forecast) (queue : WorkQueue) (inHand : List AttemptRecord) (c : Collector) :
    List AttemptRecord :=
  queue.items.flatMap f.ofItem ++ inHand ++ c.records

theorem ledger_offer (queue : WorkQueue) (inFlight : Nat) (next : WorkItem)
    (inHand : List AttemptRecord) (c : Collector) :
    (f.ledger queue (inHand ++ f.ofItem next) c).Perm
      (f.ledger ⟨queue.items ++ [next], inFlight⟩ inHand c) := by
  refine List.perm_iff_count.2 fun a => ?_
  simp only [ledger, List.flatMap_append, List.flatMap_cons, List.flatMap_nil, List.append_nil,
    List.count_append]
  omega

theorem ledger_collect {c c' : Collector} {made : List AttemptRecord} (queue : WorkQueue)
    (collected : c'.records.Perm (c.records ++ made)) :
    (f.ledger queue made c).Perm (f.ledger queue [] c') := by
  refine List.perm_iff_count.2 fun a => ?_
  have tally := collected.count_eq a
  simp only [ledger, List.append_nil, List.count_append] at tally ⊢
  omega

end Forecast

/-- The result at a stage that has yet to be kept. -/
def Stage.result? : Stage → Option TestResult
  | .deciding r | .offering _ r | .stashing r | .announcing r _ | .keeping r => some r
  | .attempting | .releasing _ | .crashing _ => none

/-- The test of the attempt that is made at a stage. -/
def Stage.making (item : WorkItem) : Stage → List TestKey
  | .attempting => [item.key]
  | _ => []

/-- The test of the result at a stage that has yet to be kept. -/
def Stage.inHand (stage : Stage) : List TestKey := stage.result?.toList.map fun r => r.test.key

section Stages

variable [Hosted W] {setting : Setting W} {ctx : AttemptContext} {s s' : Shared W}
  {stage stage' : Stage}

/-- **From stage to stage nothing changes in what is recorded and to be recorded**, where attempts are
answered as foretold, offers are accepted, and the budget allows for the item. -/
theorem StageChange.ledger (h : StageChange setting ctx s stage stage' s')
    (limit : setting.retry.perTest = f.limit) (quiet : setting.reporter.IsQuiet)
    (answers : stage = .attempting → ∀ w, ∃ o w', ctx.run setting w = (o, w') ∧
      Answered (f.answer ctx.item.key ctx.item.failures) o)
    (accepted : ∀ next r, stage = .offering next r → ∃ queue, s.queue.offer next = .ok queue)
    (enough : stage.spare f.limit ctx.item ≤ s.budget.remaining)
    (sound : stage.Sound setting ctx) (allowed : f.Allows ctx.item stage) :
    f.Allows ctx.item stage' ∧
      (f.ledger s.queue (f.ofStage ctx.item stage) s.collector).Perm
        (f.ledger s'.queue (f.ofStage ctx.item stage') s'.collector) := by
  have ended {o : Outcome PipelineError TestResult} {v : W} (here : stage = .attempting)
      (run : ctx.run setting s.world = (o, v)) :
      Answered (f.answer ctx.item.key ctx.item.failures) o := by
    obtain ⟨o', v', ran, answered⟩ := answers here s.world
    cases ran.symm.trans run
    exact answered
  cases h with
  | attempted run =>
    have answered := ended rfl run
    generalize known : f.answer ctx.item.key ctx.item.failures = answer at answered
    cases answered with
    | result same => exact ⟨known.trans (congrArg some same.symm), .refl _⟩
  | violated run => exact absurd (ended rfl run) Answered.not_failed
  | rescued run =>
    have answered := ended rfl run
    generalize known : f.answer ctx.item.key ctx.item.failures = answer at answered
    cases answered with
    | panic =>
      refine ⟨trivial, .of_eq ?_⟩
      rw [Forecast.ofStage, Forecast.ofItem, f.outlook_of_panic known]
      rfl
  | @retried r next budget retry =>
    obtain ⟨again, -, rfl⟩ := WorkItem.retry?_eq_some_iff.1 retry
    obtain ⟨failed, short⟩ := WorkItem.mayRetry_iff.1 again
    have own : r.test.key = ctx.item.key := congrArg (fun i : ResultIdentity => i.test.key) sound
    refine ⟨trivial, .of_eq ?_⟩
    rw [Forecast.ofStage, Forecast.ofStage, Forecast.ofItem, Forecast.ofItem,
      f.outlook_of_retry allowed failed (limit ▸ short), TestResult.record, own,
      WorkItem.key_nextAttempt, WorkItem.failures_nextAttempt]
  | @settled r final =>
    have own : r.test.key = ctx.item.key := congrArg (fun i : ResultIdentity => i.test.key) sound
    have settled : ¬ (r.status.isFailure = true ∧ ctx.item.failures < f.limit) := by
      rintro ⟨failed, short⟩
      have again := WorkItem.mayRetry_iff.2 ⟨failed, limit ▸ short⟩
      rw [WorkItem.retry?, if_pos again, Option.map_eq_none_iff, RetryBudget.take?_eq_none_iff] at final
      simp only [Stage.spare, WorkItem.spare] at enough
      omega
    refine ⟨trivial, .of_eq ?_⟩
    rw [Forecast.ofStage, Forecast.ofStage, Forecast.ofItem, f.outlook_of_final allowed settled,
      TestResult.record, own]
  | @offered next r queue taken =>
    obtain ⟨-, -, rfl⟩ := WorkQueue.offer_eq_ok_iff.1 taken
    exact ⟨trivial, f.ledger_offer s.queue s.queue.inFlight next [r.record false] s.collector⟩
  | @refused next r e rejected =>
    obtain ⟨queue, taken⟩ := accepted next r rfl
    cases taken.symm.trans rejected
  | stashed => exact ⟨trivial, f.ledger_collect s.queue (.of_eq Collector.records_pushRetried)⟩
  | announced => exact ⟨trivial, .refl _⟩
  | interrupted told | crashed told => exact absurd (congrArg Prod.fst told) (quiet _ _ _)
  | kept => exact ⟨trivial, f.ledger_collect s.queue Collector.records_push⟩

/-- An attempt that is made has a result in hand, and this is kept, unless an error ends the run. -/
theorem StageChange.inHand (h : StageChange setting ctx s stage stage' s')
    (sound : stage'.Sound setting ctx) (before : stage.Sound setting ctx)
    (allowed : f.Allows ctx.item stage') :
    (stage.making ctx.item ++ stage.inHand ++ s.collector.records.map (·.key)).Perm
      (stage'.inHand ++ s'.collector.records.map (·.key)) := by
  have own {r : TestResult} (sound : r.identity = ctx.identity) : r.test.key = ctx.item.key :=
    congrArg (fun i : ResultIdentity => i.test.key) sound
  cases h with
  | attempted | rescued =>
    simp [Stage.making, Stage.inHand, Stage.result?, own sound]
  | violated | crashed => exact allowed.elim
  | interrupted => simp [Stage.making, Stage.inHand, Stage.result?, own sound, own before]
  | retried | settled | offered | refused | announced => exact .refl _
  | stashed =>
    rw [Collector.records_pushRetried, List.map_append]
    exact List.perm_append_comm
  | @kept r =>
    have collected := (Collector.records_push (c := s.collector) (r := r)).symm.map (·.key)
    rw [List.map_append] at collected
    exact List.perm_append_comm.trans collected

end Stages

/-! ## Workers -/

/-- What a worker can be at where attempts are answered as foretold: it has no error. -/
def WorkerPhase.Foretold (f : Forecast) : WorkerPhase → Prop
  | .busy item stage => f.Allows item stage
  | .cancelling _ | .abandoning _ | .stopped (.error _) => False
  | _ => True

namespace Worker

/-- What is to be recorded of the attempts at the item in the worker's hands. -/
def outlook (f : Forecast) (w : Worker W) : List AttemptRecord :=
  match w.phase with
  | .busy item stage => f.ofStage item stage
  | _ => []

/-- The test of the result in the worker's hands. -/
def inHand (w : Worker W) : List TestKey :=
  match w.phase with
  | .busy _ stage => stage.inHand
  | _ => []

theorem outlook_eq_nil {w : Worker W} (idle : w.isBusy = false) : w.outlook f = [] := by
  unfold isBusy at idle
  unfold outlook
  cases phase : w.phase <;> simp_all

theorem inHand_eq_nil {w : Worker W} (idle : w.isBusy = false) : w.inHand = [] := by
  unfold isBusy at idle
  unfold inHand
  cases phase : w.phase <;> simp_all

/-- The worker has transparent rules, if any, and is at what it can come to where attempts are answered
as foretold. -/
structure Foretold (f : Forecast) (pool : PoolContext) (w : Worker W) : Prop where
  ruled : ∀ rule ∈ w.rules, rule.IsTransparent ⟨pool, w.device⟩ fun r : DeviceSummary => r.retired
  phase : w.phase.Foretold f

variable [Hosted W]

/-- The worker has in hand what is its own, its attempts are answered as foretold and its offers are
accepted, and the budget allows for its item. -/
structure Provided (f : Forecast) (setting : Setting W) (pool : PoolContext) (w : Worker W)
    (s : Shared W) : Prop where
  sound : w.Sound setting pool
  answers : ∀ item ∈ w.attempting, ∀ v, ∃ o v',
    AttemptContext.run ⟨⟨pool, w.device⟩, item⟩ setting v = (o, v') ∧
      Answered (f.answer item.key item.failures) o
  accepted : ∀ item next r, w.phase = .busy item (.offering next r) →
    ∃ queue, s.queue.offer next = .ok queue
  enough : w.spare f.limit ≤ s.budget.remaining

variable {setting : Setting W} {pool : PoolContext} {w w' : Worker W} {s s' : Shared W}

/-- From stage to stage of an item in the worker's hands. -/
theorem Provided.stage (provided : w.Provided f setting pool s)
    (limit : setting.retry.perTest = f.limit) (quiet : setting.reporter.IsQuiet)
    (foretold : w.Foretold f pool) {item : WorkItem} {stage stage' : Stage}
    (phase : w.phase = .busy item stage)
    (change : StageChange setting ⟨⟨pool, w.device⟩, item⟩ s stage stage' s') :
    f.Allows item stage' ∧
      (f.ledger s.queue (f.ofStage item stage) s.collector).Perm
        (f.ledger s'.queue (f.ofStage item stage') s'.collector) ∧
      (stage.making item ++ stage.inHand ++ s.collector.records.map (·.key)).Perm
        (stage'.inHand ++ s'.collector.records.map (·.key)) := by
  have sound := provided.sound
  have enough := provided.enough
  have allowed : f.Allows item stage := by simpa only [phase, WorkerPhase.Foretold] using foretold.phase
  simp only [Sound, Worker.spare, phase] at sound enough
  obtain ⟨allowed', ledger⟩ := change.ledger limit quiet
    (fun here => provided.answers item (mem_attempting.2 (here ▸ phase)))
    (fun next r here => provided.accepted item next r (here ▸ phase)) enough sound allowed
  exact ⟨allowed', ledger, change.inHand (change.sound sound) sound allowed'⟩

omit [Hosted W] in
/-- A worker with transparent rules begins. -/
theorem exists_start (transparent : setting.IsTransparent) (inRun : pool.run = setting.context)
    (w : Worker W) (v : W) :
    ∃ rules, (w.start setting ⟨pool, w.device⟩ v).1 =
        { w with rules, depth := rules.length, phase := .idle } ∧
      ∀ rule ∈ rules, rule.IsTransparent ⟨pool, w.device⟩ fun r : DeviceSummary => r.retired := by
  obtain ⟨run, devices⟩ := pool
  obtain rfl : run = setting.context := inRun
  obtain ⟨rules, built, transparent⟩ := transparent.device devices w.device
  obtain ⟨v', entered⟩ := Pipeline.exists_enter (p := ⟨.device, rules⟩)
    (fun rule hr => (transparent rule hr).admits) v
  refine ⟨rules, ?_, transparent⟩
  unfold Worker.start
  simp only [built, pipeline, entered]
  rfl

omit [Hosted W] in
/-- A worker with transparent rules stops without an error. -/
theorem Foretold.exists_leave (foretold : w.Foretold f pool) (v : W) :
    ∃ summary, (w.leave ⟨pool, w.device⟩ v).1 = w.at_ (.stopped (.ok summary)) := by
  obtain ⟨summary, v', left, -⟩ := Pipeline.exists_unwind (p := w.pipeline)
    (fun rule hr => (foretold.ruled rule hr).calm) (fun rule hr => (foretold.ruled rule hr).preserves)
    w.summary w.depth v
  refine ⟨summary, ?_⟩
  unfold Worker.leave
  simp only [left]

theorem Change.foretold (h : Change setting pool w s w' s') (transparent : setting.IsTransparent)
    (inRun : pool.run = setting.context) (limit : setting.retry.perTest = f.limit)
    (quiet : setting.reporter.IsQuiet) (provided : w.Provided f setting pool s)
    (foretold : w.Foretold f pool) : w'.Foretold f pool ∧ s'.cancelled = s.cancelled := by
  have allowed := foretold.phase
  cases h with
  | start =>
    obtain ⟨rules, started, transparent⟩ := exists_start transparent inRun w s.world
    rw [started]
    exact ⟨⟨transparent, trivial⟩, rfl⟩
  | work phase change =>
    obtain ⟨allowed, -⟩ := provided.stage limit quiet foretold phase change
    exact ⟨⟨foretold.ruled, allowed⟩, by cases change <;> rfl⟩
  | violate phase | crash phase | cancel phase | abandon phase =>
    rw [phase] at allowed
    exact allowed.elim
  | leave =>
    obtain ⟨summary, left⟩ := foretold.exists_leave s.world
    rw [left]
    exact ⟨⟨foretold.ruled, trivial⟩, rfl⟩
  | expire | claim | heed | quit | release => exact ⟨⟨foretold.ruled, trivial⟩, rfl⟩

/-- **A step of a worker changes nothing in what is recorded and to be recorded**, and what it attempts
has a result in hand. -/
theorem Effect.ledger (h : Effect setting pool w s w' s') (limit : setting.retry.perTest = f.limit)
    (quiet : setting.reporter.IsQuiet) (provided : w.Provided f setting pool s)
    (foretold : w.Foretold f pool) :
    (f.ledger s.queue (w.outlook f) s.collector).Perm (f.ledger s'.queue (w'.outlook f) s'.collector) ∧
      (w.attempting.map WorkItem.key ++ w.inHand ++ s.collector.records.map (·.key)).Perm
        (w'.inHand ++ s'.collector.records.map (·.key)) := by
  cases h with
  | none idle idle' queue collector =>
    rw [queue, collector, outlook_eq_nil idle, outlook_eq_nil idle', attempting_eq_nil idle,
      inHand_eq_nil idle, inHand_eq_nil idle']
    exact ⟨.refl _, .refl _⟩
  | @take item idle phase' claimed collector =>
    have split := (WorkQueue.perm_of_claim? claimed).flatMap_right f.ofItem
    rw [collector, outlook_eq_nil idle, attempting_eq_nil idle, inHand_eq_nil idle]
    simp only [outlook, inHand, phase', Forecast.ofStage]
    refine ⟨List.perm_iff_count.2 fun a => ?_, .refl _⟩
    have tally := split.count_eq a
    simp only [Forecast.ledger, List.flatMap_cons, List.count_append, List.count_nil] at tally ⊢
    omega
  | @work item stage stage' phase phase' change =>
    obtain ⟨-, ledger, inHand⟩ := provided.stage limit quiet foretold phase change
    have making : w.attempting.map WorkItem.key = stage.making item := by
      simp only [attempting, phase]
      cases stage <;> rfl
    simp only [making, outlook, Worker.inHand, phase, phase']
    exact ⟨ledger, inHand⟩
  | @drop item stage phase spent idle' items collector =>
    have nothing : f.ofStage item stage = [] ∧ stage.inHand = [] ∧ w.attempting = [] := by
      simp only [attempting, phase]
      cases stage <;> simp_all [Stage.isSpent, Forecast.ofStage, Stage.inHand, Stage.result?]
    have outlook : w.outlook f = [] := by simp only [Worker.outlook, phase, nothing.1]
    have inHand : w.inHand = [] := by simp only [Worker.inHand, phase, nothing.2.1]
    rw [outlook, inHand, nothing.2.2, outlook_eq_nil idle', inHand_eq_nil idle', collector,
      Forecast.ledger, Forecast.ledger, items]
    exact ⟨.refl _, .refl _⟩

end Worker

/-! ## Pools -/

/-- What a pool can be at where attempts are answered as foretold: nothing is left when its workers have
gone, and its result is what it has collected. -/
def PoolPhase.Foretold (queue : WorkQueue) (c : Collector) : PoolPhase → Prop
  | .planned | .working => True
  | .accounting left _ => left = [] ∧ queue.items = []
  | .closing r | .finished (.ok r) =>
    queue.items = [] ∧ (r.results, r.retried) = (c.results, c.retried)
  | _ => False

namespace PoolState

/-- What is recorded and to be recorded of the attempts in the pool. -/
def ledger (f : Forecast) (p : PoolState W) : List AttemptRecord :=
  f.ledger p.queue (p.workers.flatMap (Worker.outlook f)) p.collector

/-- The tests of the attempts whose results are in hand or kept. -/
def answered (p : PoolState W) : List TestKey :=
  p.workers.flatMap Worker.inHand ++ p.collector.records.map (·.key)

variable [Hosted W]

/-- The pool has transparent rules, if any, and is at what it can come to where attempts are answered as
foretold: what it has recorded and is to record is what was foretold of its plan, and every attempt has
its result in hand or kept. -/
structure Foretold (f : Forecast) (setting : Setting W) (past : Past W) (p : PoolState W) : Prop where
  ruled : ∀ rule ∈ p.rules, rule.IsTransparent ⟨setting.context, p.plan.pool⟩
    fun r : PoolResult => (r.results, r.retried)
  workers : ∀ w ∈ p.workers, w.Foretold f ⟨setting.context, p.plan.pool⟩
  fatal : p.fatal = none
  phase : p.phase.Foretold p.queue p.collector
  ledger : (f.ofPlan p.plan).Perm (p.ledger f)
  attempts : (past.attempts.map WorkItem.key).Perm p.answered

/-- The workers of the pool are provided for, and nothing is queued when they have gone. -/
structure Provided (f : Forecast) (setting : Setting W) (p : PoolState W) (c : Common W) : Prop where
  workers : ∀ w ∈ p.workers, w.Provided f setting ⟨setting.context, p.plan.pool⟩ (p.shared c)
  emptied : (∀ w ∈ p.workers, w.isGone = true) → p.queue.items = []

variable {setting : Setting W} {past past' : Past W} {p p' : PoolState W} {c c' : Common W}
  {m : PoolMove}

omit [Hosted W] in
/-- A pool with transparent rules begins to work. -/
theorem exists_start (transparent : setting.IsTransparent) (p : PoolState W) (v : W) :
    ∃ rules, (p.start setting ⟨setting.context, p.plan.pool⟩ v).1 =
        { p with rules, depth := rules.length, phase := .working } ∧
      ∀ rule ∈ rules, rule.IsTransparent ⟨setting.context, p.plan.pool⟩
        fun r : PoolResult => (r.results, r.retried) := by
  obtain ⟨rules, built, transparent⟩ := transparent.pool p.plan.pool
  obtain ⟨v', entered⟩ := Pipeline.exists_enter (p := ⟨.pool, rules⟩)
    (fun rule hr => (transparent rule hr).admits) v
  refine ⟨rules, ?_, transparent⟩
  unfold PoolState.start
  simp only [built, pipeline, entered]
  rfl

omit [Hosted W] in
/-- A pool with transparent rules ends with the results that it has. -/
theorem Foretold.exists_close (foretold : p.Foretold f setting past) (r : PoolResult) (v : W) :
    ∃ r', (p.close ⟨setting.context, p.plan.pool⟩ r v).1 = p.at_ (.finished (.ok r')) ∧
      (r'.results, r'.retried) = (r.results, r.retried) := by
  obtain ⟨r', v', left, -, same⟩ := Pipeline.exists_unwind (p := p.pipeline)
    (fun rule hr => (foretold.ruled rule hr).calm) (fun rule hr => (foretold.ruled rule hr).preserves)
    r p.depth v
  refine ⟨r', ?_, same⟩
  unfold PoolState.close
  simp only [left]

omit [Hosted W] in
/-- When one of its workers changes a pool is as foretold as that worker is. -/
theorem Foretold.set (foretold : p.Foretold f setting past) (working : p.phase = .working) {j : Nat}
    {w w' : Worker W} (at_j : p.workers[j]? = some w)
    (own : w'.Foretold f ⟨setting.context, p.plan.pool⟩) {queue : WorkQueue} {collector : Collector}
    {devices : List DeviceSummary}
    (ledger : (f.ledger p.queue (w.outlook f) p.collector).Perm
      (f.ledger queue (w'.outlook f) collector))
    (answered : (w.attempting.map WorkItem.key ++ w.inHand ++ p.collector.records.map (·.key)).Perm
      (w'.inHand ++ collector.records.map (·.key)))
    (made : past'.attempts = past.attempts ++ w.attempting) :
    Foretold f setting past'
      { p with workers := p.workers.set j w', queue, collector, devices } := by
  obtain ⟨others, before, after⟩ := exists_others_of_set at_j (b := w')
  refine ⟨foretold.ruled, fun v hv => ?_, foretold.fatal, ?_, foretold.ledger.trans ?_, ?_⟩
  · rcases List.mem_cons.1 (after.mem_iff.1 hv) with rfl | other
    · exact own
    · exact foretold.workers v (before.mem_iff.2 (List.mem_cons_of_mem _ other))
  · rw [working]
    trivial
  · refine List.perm_iff_count.2 fun a => ?_
    have tally := ledger.count_eq a
    have tally_before := (before.flatMap_right (Worker.outlook f)).count_eq a
    have tally_after := (after.flatMap_right (Worker.outlook f)).count_eq a
    simp only [PoolState.ledger, Forecast.ledger, List.flatMap_cons, List.count_append] at *
    omega
  · refine List.perm_iff_count.2 fun k => ?_
    have tally := answered.count_eq k
    have tally_before := (before.flatMap_right Worker.inHand).count_eq k
    have tally_after := (after.flatMap_right Worker.inHand).count_eq k
    have earlier := foretold.attempts.count_eq k
    rw [made]
    simp only [PoolState.answered, List.map_append, List.flatMap_cons, List.count_append] at *
    omega

/-- **Every step of a pool is as foretold**, as long as its workers are provided for. -/
theorem Change.foretold (h : Change setting p c m p' c') (transparent : setting.IsTransparent)
    (limit : setting.retry.perTest = f.limit) (quiet : setting.reporter.IsQuiet)
    (on : c.cancelled = false) (provided : p.Provided f setting c)
    (foretold : p.Foretold f setting past) :
    c'.cancelled = false ∧ p'.Foretold f setting (past ++ [(p, m)]) := by
  have allowed := foretold.phase
  have attempts : Past.attempts (past ++ [(p, .own)]) = past.attempts := by
    rw [Past.attempts, Past.shown_append, PoolState.shown, List.append_nil]
    rfl
  cases h with
  | start phase =>
    obtain ⟨rules, started, ruled⟩ := exists_start transparent p c.world
    rw [started]
    exact ⟨on, { foretold with ruled, phase := trivial, attempts := attempts ▸ foretold.attempts }⟩
  | refuse phase | abort phase =>
    rw [phase] at allowed
    exact allowed.elim
  | fail phase gone failed =>
    rw [failure?, foretold.fatal, on] at failed
    cases failed
  | drain phase gone =>
    have nothing := provided.emptied gone
    refine ⟨on, { foretold with
      phase := ⟨nothing, rfl⟩, ledger := ?_, attempts := attempts ▸ foretold.attempts }⟩
    have ledger := foretold.ledger
    rw [PoolState.ledger, Forecast.ledger, nothing] at ledger
    exact ledger
  | account phase =>
    rw [phase] at allowed
    exact absurd allowed.1 (List.cons_ne_nil _ _)
  | conclude phase =>
    rw [phase] at allowed
    exact ⟨on, { foretold with phase := ⟨allowed.2, rfl⟩, attempts := attempts ▸ foretold.attempts }⟩
  | @close r phase =>
    obtain ⟨r', left, same⟩ := foretold.exists_close r c.world
    rw [phase] at allowed
    rw [left]
    exact ⟨on, { foretold with
      phase := ⟨allowed.1, same.trans allowed.2⟩, attempts := attempts ▸ foretold.attempts }⟩
  | @worker j w w' s' phase at_j change =>
    have hw := List.mem_of_getElem? at_j
    obtain ⟨own, called⟩ := change.foretold transparent rfl limit quiet (provided.workers w hw)
      (foretold.workers w hw)
    obtain ⟨ledger, answered⟩ := change.effect.ledger limit quiet (provided.workers w hw)
      (foretold.workers w hw)
    refine ⟨called.trans on, foretold.set phase at_j own ledger answered ?_⟩
    rw [Past.attempts, Past.shown_append, PoolState.shown_worker at_j]
    rfl
  | @join j w summary phase at_j stopped =>
    have hw := List.mem_of_getElem? at_j
    have idle : w.isBusy = false := by simp only [Worker.isBusy, stopped]
    have gone : (w.at_ .gone).Foretold f ⟨setting.context, p.plan.pool⟩ :=
      ⟨(foretold.workers w hw).ruled, trivial⟩
    refine ⟨on, foretold.set phase at_j gone ?_ ?_ ?_⟩
    · rw [Worker.outlook_eq_nil idle]
      exact .refl _
    · rw [Worker.attempting_eq_nil idle, Worker.inHand_eq_nil idle]
      exact .refl _
    · rw [Past.attempts, Past.shown_append, Worker.attempting_eq_nil idle]
      rfl
  | @joinFailed j w e phase at_j stopped =>
    have own := (foretold.workers w (List.mem_of_getElem? at_j)).phase
    rw [stopped] at own
    exact own.elim

end PoolState

/-! ## Runs -/

/-- What is planned can be foretold: rules are transparent and the reporter does not panic, attempts
are answered as the forecast has it, and the items of a pool are of different tests, each for some
device. -/
structure Setting.Predicts [Hosted W] (setting : Setting W) (plans : List PoolPlan) (f : Forecast) :
    Prop where
  transparent : setting.IsTransparent
  quiet : setting.reporter.IsQuiet
  meets : ∀ planned ∈ plans, setting.Meets planned f
  distinct : ∀ planned ∈ plans, Distinct planned.items
  placed : ∀ planned ∈ plans, ∀ item ∈ planned.items, item.compatibleIn planned.pool = true

/-- Every planned item is for some device of its pool. -/
theorem RunPlan.placed_of_ofConfig [Hosted W] {registry : Registry W} {config : Config} {id : RunId}
    {w w' : W} {plan : RunPlan W} (accepted : RunPlan.ofConfig registry config id w = (.done plan, w'))
    {planned : PoolPlan} (hp : planned ∈ plan.pools) :
    ∀ item ∈ planned.items, item.compatibleIn planned.pool = true := by
  intro item hitem
  obtain ⟨origin, prepared, -⟩ := exists_origin accepted hp hitem 0
  exact (Suite.prepareItem_eq_ok_iff.1 prepared).2

namespace WorkItem

/-- A retry leaves a device to an item that has one. -/
theorem inherited_compatibleIn (settings : RetrySettings) (pool : DevicePool) :
    Inherited settings pool fun x => x.compatibleIn pool = true := by
  intro item failed _ placed
  unfold nextAttempt
  dsimp only
  split
  · rename_i elsewhere
    exact (Bool.and_eq_true_iff.1 elsewhere).2
  · exact placed

end WorkItem

variable [Hosted W] {setting : Setting W}

omit [Hosted W] in
/-- When all workers have gone of a pool of which no device is retired, nothing is queued that any of
its devices could run. -/
theorem PoolState.Settled.emptied {p : PoolState W} (settled : p.Settled false)
    (gone : ∀ w ∈ p.workers, w.isGone = true) (serving : ∀ d, ¬ p.Retired d)
    (placed : ∀ x ∈ p.queue.items, x.compatibleIn p.plan.pool = true) : p.queue.items = [] := by
  refine List.eq_nil_iff_forall_not_mem.2 fun x hx => ?_
  obtain ⟨d, hd, fits⟩ := List.any_eq_true.1 (placed x hx)
  obtain ⟨device, listed, rfl⟩ := List.mem_map.1 hd
  rw [← settled.staffed] at listed
  obtain ⟨w, hw, rfl⟩ := List.mem_map.1 listed
  have left : w.hasLeft = true := by simp only [Worker.hasLeft, Worker.isGone_iff.1 (gone w hw)]
  rcases settled.ended w hw left with retired | off | spent
  · exact serving _ retired
  · cases off
  · rw [spent x (mem_inPlay.2 (.inl hx))] at fits
    cases fits

omit [Hosted W] in
theorem PoolState.foretold_ofPlan (f : Forecast) (setting : Setting W) {plan : PoolPlan}
    (distinct : Distinct plan.items) : (ofPlan plan).Foretold f setting [] where
  ruled := nofun
  workers w hw := by
    obtain ⟨device, -, rfl⟩ := List.mem_map.1 hw
    exact ⟨nofun, trivial⟩
  fatal := rfl
  phase := trivial
  ledger := by
    have idle : (ofPlan (W := W) plan).workers.flatMap (Worker.outlook f) = [] :=
      List.flatMap_eq_nil_iff.2 fun w hw => Worker.outlook_eq_nil
        (isBusy_of_mem_ofPlan hw)
    have queued : (ofPlan (W := W) plan).queue.items = plan.items :=
      WorkQueue.firsts_of_distinct distinct
    refine .of_eq ?_
    rw [PoolState.ledger, idle, Forecast.ledger, queued, List.append_nil]
    exact (List.append_nil _).symm
  attempts := by
    have idle : (ofPlan (W := W) plan).workers.flatMap Worker.inHand = [] :=
      List.flatMap_eq_nil_iff.2 fun w hw => Worker.inHand_eq_nil
        (isBusy_of_mem_ofPlan hw)
    rw [answered, idle]
    exact .refl _

namespace RunState

variable {world : W} {quota i : Nat} {plans : List PoolPlan} {history : History W} {s : RunState W}
  {p : PoolState W}

/-- While no device is retired the workers of a pool are provided for. -/
theorem Trace.provided (trace : Trace setting (ofPlans world quota plans) history s)
    (predicts : setting.Predicts plans f)
    (enough : PoolPlan.itemCount plans * setting.retry.perTest ≤ quota) (at_i : s.pools[i]? = some p)
    (on : s.common.cancelled = false) (serving : ∀ d, ¬ p.Retired d) :
    p.Provided f setting s.common := by
  obtain ⟨planned, recorded⟩ := trace.recorded at_i
  have hp := List.mem_of_getElem? planned
  have settled := trace.reachable.settled at_i
  have placed := (trace.inherits planned (WorkItem.inherited_compatibleIn _ _)
    (fun x hx => predicts.placed _ hp x ((WorkQueue.firsts_sublist _).subset hx)) at_i).2
  refine ⟨fun w hw => ⟨recorded.sound w hw, fun item made v => ?_, fun item next r phase => ?_, ?_⟩,
    fun gone => (on ▸ settled).emptied gone serving fun x hx =>
      placed x (PoolState.mem_inPlay.2 (.inl hx))⟩
  · obtain ⟨⟨first, hfirst, follows⟩, inPool, fits⟩ :=
      trace.reachable.exists_planned planned (predicts.distinct _ hp) ⟨p, at_i, hw, made⟩
    exact (predicts.meets _ hp).answers first hfirst item follows _ inPool (follows.compatible fits) v
  · have working : p.phase = .working := by
      refine (trace.rest (List.mem_of_getElem? at_i)).resolve_right fun idle => ?_
      have idle := idle w hw
      simp [Worker.isBusy, phase] at idle
    exact PoolState.offer_accepted hw phase recorded.sound (trace.apart at_i working) settled.tallied
  · have whole := trace.spare_le enough
    rw [(predicts.meets _ hp).limit] at whole
    calc w.spare f.limit ≤ (p.workers.map (Worker.spare f.limit)).sum :=
          List.single_le_sum (fun _ _ => Nat.zero_le _) _ (List.mem_map_of_mem hw)
      _ ≤ p.spare f.limit := Nat.le_add_left _ _
      _ ≤ (s.pools.map (PoolState.spare f.limit)).sum :=
          List.single_le_sum (fun _ _ => Nat.zero_le _) _
            (List.mem_map_of_mem (List.mem_of_getElem? at_i))
      _ ≤ s.common.budget.remaining := whole

/-- **A run in which no device is retired goes as foretold**, whoever moves when, if the budget allows
for every retry. -/
theorem Trace.foretold (trace : Trace setting (ofPlans world quota plans) history s)
    (predicts : setting.Predicts plans f)
    (enough : PoolPlan.itemCount plans * setting.retry.perTest ≤ quota)
    (serving : ∀ p ∈ s.pools, ∀ d, ¬ p.Retired d) :
    s.common.cancelled = false ∧
      ∀ (i : Nat) (p : PoolState W), s.pools[i]? = some p →
        p.Foretold f setting (history.ofPool i) := by
  induction trace with
  | refl =>
    refine ⟨rfl, fun i p at_i => ?_⟩
    rw [ofPlans, List.getElem?_map, Option.map_eq_some_iff] at at_i
    obtain ⟨plan, planned, rfl⟩ := at_i
    exact PoolState.foretold_ofPlan f setting (predicts.distinct _ (List.mem_of_getElem? planned))
  | @step history s t move earlier stepped ih =>
    obtain ⟨q, q', c', at_place, change, rfl⟩ := earlier.reachable.step_eq_some stepped
    have inside := (List.getElem?_eq_some_iff.1 at_place).1
    -- What was retired before would be so now.
    have before : ∀ p ∈ s.pools, ∀ d, ¬ p.Retired d := by
      intro p hp d retired
      obtain ⟨i, at_i⟩ := List.getElem?_of_mem hp
      by_cases here : move.place = i
      · subst here
        obtain rfl := Option.some.inj (at_i.symm.trans at_place)
        exact serving q' (List.mem_set inside q') d (change.retired retired)
      · exact serving p (List.mem_of_getElem? ((List.getElem?_set_ne here).trans at_i)) d retired
    obtain ⟨on, foretold⟩ := ih before
    have limit := (predicts.meets _
      (List.mem_of_getElem? (earlier.reachable.planned at_place))).limit
    obtain ⟨on', foretold'⟩ := change.foretold predicts.transparent limit predicts.quiet on
      (earlier.provided predicts enough at_place on (before q (List.mem_of_getElem? at_place)))
      (foretold _ q at_place)
    refine ⟨on', fun i p at_i => ?_⟩
    rcases getElem?_put at_place at_i with ⟨rfl, rfl⟩ | ⟨differs, at_i⟩
    · rw [History.ofPool_append_here at_place]
      exact foretold'
    · rw [History.ofPool_append_elsewhere (Ne.symm differs)]
      exact foretold i p at_i

end RunState

omit [Hosted W] in
/-- A pool that is over has a result, and what is recorded of its attempts is what was foretold. -/
theorem PoolState.Foretold.exists_result {past : Past W} {p : PoolState W}
    (foretold : p.Foretold f setting past) (ended : p.isOver = true)
    (rest : ∀ w ∈ p.workers, w.isBusy = false) :
    ∃ r, p.phase = .finished (.ok r) ∧
      (r.results, r.retried) = (p.collector.results, p.collector.retried) ∧
      (f.ofPlan p.plan).Perm p.collector.records ∧
      (past.attempts.map WorkItem.key).Perm (p.collector.records.map (·.key)) := by
  have ledger := foretold.ledger
  have attempts := foretold.attempts
  have outlook : p.workers.flatMap (Worker.outlook f) = [] :=
    List.flatMap_eq_nil_iff.2 fun w hw => Worker.outlook_eq_nil (rest w hw)
  have inHand : p.workers.flatMap Worker.inHand = [] :=
    List.flatMap_eq_nil_iff.2 fun w hw => Worker.inHand_eq_nil (rest w hw)
  rw [PoolState.ledger, Forecast.ledger, outlook] at ledger
  rw [answered, inHand] at attempts
  have phase := foretold.phase
  cases at_phase : p.phase with
  | finished o =>
    cases o with
    | ok r =>
      simp only [at_phase, PoolPhase.Foretold] at phase
      rw [phase.1] at ledger
      exact ⟨r, rfl, phase.2, ledger, attempts⟩
    | error e =>
      rw [at_phase] at phase
      exact phase.elim
  | lost m =>
    rw [at_phase] at phase
    exact phase.elim
  | _ => simp [isOver, at_phase] at ended

/-! ## Two runs that agree -/

/-- A pool came to what it comes to in turn: it has one final result for each test that has one in turn,
of the same status, as many attempts at each test, and superseded attempts of the same tests and
statuses. -/
structure PoolResult.Agrees (r : PoolResult) (past : Past W) (t : Tally) : Prop where
  single : (r.results.map fun r => r.test.key).Nodup
  results : (r.results.map TestResult.verdict).Perm (t.collector.results.map TestResult.verdict)
  retried : (r.retried.map TestResult.verdict).Perm (t.collector.retried.map TestResult.verdict)
  attempts : ∀ key, (past.numbers key).length = (t.attempts.filter fun x => x.key == key).length

omit [Hosted W] in
theorem length_numbers (past : Past W) (key : TestKey) :
    (past.numbers key).length = (past.attempts.map WorkItem.key).count key := by
  rw [Past.numbers, List.length_map, ← List.countP_eq_length_filter, List.count_eq_countP,
    List.countP_map]
  rfl

/-- **The schedule does not matter.** Let a plan be accepted whose backends answer with one function of
the test and of how often it failed before as the status, whose rules, if any are configured, are
transparent, and whose budget has as many retries as its items may take. Run in turn, each item on a
device that may run it, the plan comes to an end. In every run of it, whoever moves when, after
finitely many moves nobody can move any more; and if no device was retired by then, each pool has a
result that agrees with what was done in turn. -/
theorem schedule_independent {registry : Registry W} {reporter : Reporter W} {config : Config}
    {id : RunId} {w w' : W} {plan : RunPlan W} {status : TestKey → Nat → TestStatus}
    (accepted : RunPlan.ofConfig registry config id w = (.done plan, w'))
    (answers : plan.AnswersWith status)
    (transparent : (plan.setting registry reporter).IsTransparent) (quiet : reporter.IsQuiet)
    (enough : PoolPlan.itemCount plan.pools * config.retry.perTest ≤ config.retry.total)
    {on : DevicePool → WorkItem → Device}
    (eligible : ∀ planned ∈ plan.pools, planned.Eligible (on planned.pool)) (v : W) :
    ∃ ts v',
      plansInTurn (plan.setting registry reporter) on plan.pools (.ofTotal config.retry.total) v =
        (.done ts, v') ∧
      ∀ (world : W) (history : History W) (s : RunState W),
        RunState.Trace (plan.setting registry reporter)
          (.ofPlans world config.retry.total plan.pools) history s →
        history.length ≤ (RunState.ofPlans world config.retry.total plan.pools).cost ∧
        ((∀ move, s.step (plan.setting registry reporter) move = none) →
          (∀ p ∈ s.pools, ∀ d, ¬ p.Retired d) →
          ∀ (i : Nat) (planned : PoolPlan), plan.pools[i]? = some planned →
            ∃ p r t, s.pools[i]? = some p ∧ p.phase = .finished (.ok r) ∧ ts[i]? = some t ∧
              r.Agrees (history.ofPool i) t) := by
  obtain ⟨own, -, -, pools⟩ := RunPlan.exists_of_ofConfig accepted
  have retry : (plan.setting registry reporter).retry = config.retry := by
    rw [Setting.retry, RunPlan.setting, own]
  have limit : (plan.forecast status).limit = config.retry.perTest := by rw [RunPlan.forecast, own]
  have predicts : (plan.setting registry reporter).Predicts plan.pools (plan.forecast status) :=
    ⟨transparent, quiet, fun planned hp => RunPlan.meets_forecast accepted answers transparent hp,
      RunPlan.distinct_of_ofConfig accepted, fun planned hp => RunPlan.placed_of_ofConfig accepted hp⟩
  have affordable : PoolPlan.itemCount plan.pools * (plan.forecast status).limit ≤
      (RetryBudget.ofTotal config.retry.total).remaining := by
    rw [limit]
    exact enough
  obtain ⟨ts, v', inTurn, recorded⟩ := exists_plansInTurn predicts.meets eligible affordable v
  refine ⟨ts, v', inTurn, fun world history s trace =>
    ⟨Nat.le_of_add_right_le (trace.length_add_cost_le (RunState.tallied_ofPlans _ _ _)), fun stuck serving i planned at_i => ?_⟩⟩
  have ended := trace.reachable.isOver_iff.2 stuck
  obtain ⟨p, here⟩ := trace.exists_pool at_i
  have hp := List.mem_of_getElem? here
  obtain ⟨-, foretold⟩ := trace.foretold predicts (by rw [retry]; exact enough) serving
  have atEnd := List.all_eq_true.1 ended p hp
  have rest := (trace.rest hp).resolve_left fun working => by simp [PoolState.isOver, working] at atEnd
  obtain ⟨r, phase, kept, ledger, attempts⟩ := (foretold i p here).exists_result atEnd rest
  obtain ⟨results, retried⟩ := Prod.mk.inj kept
  obtain rfl := Option.some.inj (at_i.symm.trans (trace.reachable.planned here))
  obtain ⟨t, there, records, made⟩ := recorded i _ at_i
  obtain ⟨finals, superseded⟩ := Collector.verdicts_of_records (ledger.symm.trans records.symm)
  refine ⟨p, r, t, here, phase, there, ?_, results ▸ finals, retried ▸ superseded, fun key => ?_⟩
  · rw [results, ← Collector.keys_of_records]
    have keys := (ledger.filter fun a => a.isFinal).map (·.key)
    rw [Forecast.finals_ofPlan] at keys
    exact keys.nodup (predicts.distinct _ (List.mem_of_getElem? at_i))
  · have count := (attempts.trans ((ledger.map (·.key)).symm.trans (.of_eq made.symm))).count_eq key
    rw [length_numbers, count, List.count_eq_countP, List.countP_map, ← List.countP_eq_length_filter]
    rfl

namespace Sample

/-- Fails every test at first, and then passes it. -/
def flaky : Backend Host where
  id := "flaky"
  supports _ _ := true
  execute ctx :=
    .give <| .ofStatus ctx.identity (if ctx.item.failures = 0 then .fail else .pass) default

/-- The built-in components and the backend. -/
def flakyRegistry : Registry Host :=
  (Registry.builtin 0).withBackend "sample.flaky" fun _ _ => .done flaky

/-- A test for two devices, and no rules. -/
def flakyConfig : Config where
  devices := ⟨"builtin.static", none, [("devices", .list [listedDevice "a", listedDevice "b"])]⟩
  suite := .inline [⟨item.test, [], []⟩]
  backends := [⟨"sample.flaky", none, []⟩]

/-- What is planned. -/
def flakyPlanning : Outcome RunError (RunPlan Host) × Host :=
  RunPlan.ofConfig flakyRegistry flakyConfig default default

/-- Whether no device of the pool is retired. -/
def isServing (p : PoolState Host) : Bool :=
  p.workers.all (·.retired.isNone) && p.summaries.all (·.retired.isNone)

theorem not_retired_of_isServing {p : PoolState Host} (serving : isServing p = true) (d : DeviceId) :
    ¬ p.Retired d := by
  simp only [isServing, Bool.and_eq_true, List.all_eq_true, Option.isNone_iff_eq_none] at serving
  rintro (⟨w, hw, -, retired⟩ | ⟨summary, known, -, retired⟩)
  · simp [serving.1 w hw] at retired
  · simp [serving.2 summary known] at retired

/-- Whether no device is retired when the plan is carried out, and a pool has a superseded attempt. -/
def retriesInPlay : Outcome RunError (RunPlan Host) → Bool
  | .done plan =>
    let s := RunState.play (plan.setting flakyRegistry .silent)
      (.ofPlans default flakyConfig.retry.total plan.pools)
    s.pools.all isServing && decide (PoolPlan.itemCount plan.pools = 1) &&
      s.pools[0]?.any fun p => p.collector.retried.length == 1
  | _ => false

theorem answersWith_of_flaky {plan : RunPlan Host} {w' : Host}
    (planned : flakyPlanning = (.done plan, w')) :
    plan.AnswersWith fun _ failures => if failures = 0 then .fail else .pass := by
  have built := (RunPlan.exists_of_ofConfig planned).2.2.1
  have known : Outcome.collect flakyRegistry.backend flakyConfig.backends = .done [flaky] := by rfl
  intro b hb _ _ _ _ item w
  rw [← Outcome.done.inj (known.symm.trans built), List.mem_singleton] at hb
  subst hb
  dsimp only
  rw [AttemptContext.answer, Hosted.within_of_still rfl]
  exact .result rfl rfl

theorem isTransparent_of_flaky {plan : RunPlan Host} {w' : Host}
    (planned : flakyPlanning = (.done plan, w')) :
    (plan.setting flakyRegistry .silent).IsTransparent := by
  have own : (plan.setting flakyRegistry .silent).context.config = flakyConfig :=
    (RunPlan.exists_of_ofConfig planned).1
  apply Setting.isTransparent_of_unruled <;> rw [own] <;> rfl

end Sample

open Sample in
/-- The test fails, and passes when it is repeated: in turn as in play. -/
theorem agreement_of_flaky : ∃ plan w' ts v' history s p r t,
    RunPlan.ofConfig flakyRegistry flakyConfig default (default : Host) = (.done plan, w') ∧
      plansInTurn (plan.setting flakyRegistry .silent) DevicePool.firstFor plan.pools
        (.ofTotal flakyConfig.retry.total) default = (.done ts, v') ∧
      RunState.Trace (plan.setting flakyRegistry .silent)
        (.ofPlans default flakyConfig.retry.total plan.pools) history s ∧
      s.isOver = true ∧ s.pools[0]? = some p ∧ p.phase = .finished (.ok r) ∧ ts[0]? = some t ∧
      r.Agrees (history.ofPool 0) t ∧ p.collector.retried.length = 1 := by
  have passes : retriesInPlay flakyPlanning.1 = true := by decide +kernel
  rcases planned : flakyPlanning with ⟨_ | _ | _, w'⟩
  · rename_i plan
    simp only [planned, retriesInPlay, Bool.and_eq_true, decide_eq_true_eq, List.all_eq_true] at passes
    obtain ⟨⟨serving, one⟩, passes⟩ := passes
    obtain ⟨p, here, retried⟩ := (Option.any_eq_true _ _).1 passes
    have own : (plan.setting flakyRegistry .silent).retry.total = flakyConfig.retry.total := by
      rw [Setting.retry, RunPlan.setting, (RunPlan.exists_of_ofConfig planned).1]
    obtain ⟨reachable, ended⟩ :=
      RunPlan.isCourse_play (plan.setting flakyRegistry .silent) plan.pools default
    rw [own] at reachable ended
    obtain ⟨history, trace⟩ := reachable.trace
    obtain ⟨ts, v', inTurn, all⟩ := schedule_independent planned
      (answersWith_of_flaky planned) (isTransparent_of_flaky planned) Reporter.isQuiet_silent
      (by rw [one]; decide)
      (fun _ hp => PoolPlan.eligible_firstFor (RunPlan.placed_of_ofConfig planned hp)) default
    obtain ⟨q, r, t, at_0, phase, there, agrees⟩ :=
      (all default history _ trace).2 (trace.reachable.isOver_iff.1 ended)
        (fun p hp => not_retired_of_isServing (serving p hp)) 0 p.plan (trace.reachable.planned here)
    obtain rfl := Option.some.inj (here.symm.trans at_0)
    exact ⟨plan, w', ts, v', history, _, p, r, t, planned, inTurn, trace, ended, here, phase, there,
      agrees, eq_of_beq retried⟩
  · rw [planned] at passes
    cases passes
  · rw [planned] at passes
    cases passes

end TestFleet
