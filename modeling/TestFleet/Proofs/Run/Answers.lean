import TestFleet.Proofs.Rule.Preserving
import TestFleet.Proofs.Run.Calls
import TestFleet.Proofs.Run.Eligibility
/-!
# What backends answer

Where rules are transparent an attempt ends with what its backend answers
(`AttemptContext.exists_run`). If all backends of a plan answer with the same status for the same test
and number, so do the attempts that can be made under the plan (`RunPlan.meets_forecast`), whichever
device they are made on and whatever happened before. What becomes of an item is then known
beforehand: its attempts are repeated while they fail and the quota of its test allows it
(`Forecast.outlook`).
-/
namespace TestFleet

variable {W : Type}

/-! ## Attempts between transparent rules -/

/-- The status as results are settled. -/
def TestStatus.settled : TestStatus → TestStatus
  | .unknown => .error
  | status => status

theorem TestResult.status_settle (r : TestResult) : r.settle.status = r.status.settled := by
  unfold settle
  split
  · rename_i unknown
    rw [unknown]
    rfl
  · rename_i known
    cases status : r.status <;> simp_all [TestStatus.settled]

/-- How an attempt is answered: with a result of a status, or by a panic. -/
inductive Answered : Option TestStatus → Outcome PipelineError TestResult → Prop where
  | result {r : TestResult} {status : TestStatus} (same : r.status = status) :
    Answered (some status) (.done r)
  | panic {m : String} : Answered none (.panicked m)

theorem Answered.not_failed {answer : Option TestStatus} {e : PipelineError} :
    ¬ Answered answer (.failed e) := nofun

/-- How an attempt is answered whose backend answers with a status: by a panic if the limit for
backends cannot be told. -/
def RunSettings.answer? (s : RunSettings) (status : TestStatus) : Option TestStatus :=
  if s.answerLimit.overflows then none else some status

namespace AttemptContext

variable [Hosted W] {setting : Setting W} {ctx : AttemptContext} {b : Backend W} {status : TestStatus}

/-- What a backend answers to an attempt counts as a status: a result of the attempt with that status,
or else an error, a panic or no answer in time, which count as ERROR. -/
inductive CountsAs (ctx : AttemptContext) (status : TestStatus) :
    Option (Outcome BackendError TestResult) → Prop where
  | result {r : TestResult} (own : r.identity = ctx.identity) (same : r.status = status) :
    CountsAs ctx status (some (.done r))
  | failed {e : BackendError} (error : status = .error) : CountsAs ctx status (some (.failed e))
  | panicked {m : String} (error : status = .error) : CountsAs ctx status (some (.panicked m))
  | late (error : status = .error) : CountsAs ctx status none

/-- A backend whose answers always count as a status is run to that status. -/
theorem exists_execute (found : ctx.backend? setting.backends = some b)
    (answers : ∀ w, ctx.CountsAs status (ctx.answer b w).1) (w : W) :
    ∃ o w', ctx.execute setting.backends w = (o, w') ∧ Answered (ctx.config.run.answer? status) o := by
  have limit : ctx.config.run.answerLimit = ctx.answerLimit := rfl
  unfold execute RunSettings.answer?
  simp only [found, limit]
  cases ctx.answerLimit.overflows with
  | true => exact ⟨_, _, rfl, .panic⟩
  | false =>
    rcases executed : ctx.answer b w with ⟨o, v⟩
    have counts := answers w
    rw [executed] at counts
    cases counts with
    | result own same =>
      simp only [own, if_true]
      exact ⟨_, _, rfl, .result same⟩
    | failed error | panicked error | late error => exact ⟨_, _, rfl, .result error.symm⟩

/-- The rules around an attempt, where the configured ones are transparent. -/
theorem exists_pipeline (transparent : setting.IsTransparent)
    (inRun : ctx.onDevice.inPool.run = setting.context) (w : W) :
    ∃ rules, ctx.pipeline setting.registry w = (.done (⟨.attempt, rules⟩, none), w) ∧
      ∀ rule ∈ rules, rule.IsTransparent ctx TestResult.status := by
  obtain ⟨⟨⟨run, pool⟩, device⟩, item⟩ := ctx
  obtain rfl : run = setting.context := inRun
  obtain ⟨rules, built, transparent⟩ := transparent.attempt pool device item
  refine ⟨timingRule (Hosted.now w) :: rules, ?_, ?_⟩
  · unfold pipeline
    simp only [built]
  · exact List.forall_mem_cons.2 ⟨isTransparent_timingRule _ _, transparent⟩

/-- **An attempt between transparent rules ends as its backend answers.** -/
theorem exists_run (transparent : setting.IsTransparent)
    (inRun : ctx.onDevice.inPool.run = setting.context)
    (found : ctx.backend? setting.backends = some b)
    (answers : ∀ w, ctx.CountsAs status (ctx.answer b w).1) (w : W) :
    ∃ o w', ctx.run setting w = (o, w') ∧
      Answered ((ctx.config.run.answer? status).map TestStatus.settled) o := by
  obtain ⟨rules, built, transparent⟩ := exists_pipeline transparent inRun w
  obtain ⟨v, entered⟩ := Pipeline.exists_enter (p := ⟨.attempt, rules⟩)
    (fun rule hr => (transparent rule hr).admits) w
  obtain ⟨o, u, executed, answered⟩ := exists_execute found answers v
  have around := run_eq setting built entered
  have result : ctx.result setting.backends none ⟨rules.length, none⟩ (Hosted.now w) v = (o, u) :=
    executed
  rw [result] at around
  generalize ctx.config.run.answer? status = answer at answered ⊢
  cases answered with
  | panic => exact ⟨_, _, around, .panic⟩
  | @result r _ same =>
    obtain ⟨given, t, unwound, -, kept⟩ := Pipeline.exists_unwind (p := ⟨.attempt, rules⟩)
      (fun rule hr => (transparent rule hr).calm) (fun rule hr => (transparent rule hr).preserves)
      r rules.length u
    refine ⟨_, t, around.trans unwound, .result ?_⟩
    rw [kept, ← same]
    exact r.status_settle

end AttemptContext

/-! ## What becomes of an item -/

/-- What is recorded of an attempt: its test, how it ended, and whether that is final. -/
structure AttemptRecord where
  key : TestKey
  status : TestStatus
  isFinal : Bool
  deriving DecidableEq, Repr

namespace TestResult

/-- What the result of an attempt records of it. -/
def record (isFinal : Bool) (r : TestResult) : AttemptRecord := ⟨r.test.key, r.status, isFinal⟩

/-- The test of a result, and its status. -/
def verdict (r : TestResult) : TestKey × TestStatus := (r.test.key, r.status)

end TestResult

namespace Collector

variable {c c' : Collector} {r : TestResult}

/-- What is recorded of the attempts that are collected. -/
def records (c : Collector) : List AttemptRecord :=
  c.results.map (·.record true) ++ c.retried.map (·.record false)

theorem records_push : (c.push r).records.Perm (c.records ++ [r.record true]) := by
  refine List.perm_iff_count.2 fun a => ?_
  simp only [records, push, List.map_append, List.map_cons, List.map_nil, List.count_append]
  omega

theorem records_pushRetried : (c.pushRetried r).records = c.records ++ [r.record false] := by
  simp only [records, pushRetried, List.map_append, List.map_cons, List.map_nil, List.append_assoc]

theorem finals_records (c : Collector) :
    ((c.records.filter fun a => a.isFinal).map fun a => (a.key, a.status)) =
      c.results.map TestResult.verdict := by
  simp [records, List.filter_append, List.filter_map, Function.comp_def, TestResult.record,
    TestResult.verdict]

theorem superseded_records (c : Collector) :
    ((c.records.filter fun a => !a.isFinal).map fun a => (a.key, a.status)) =
      c.retried.map TestResult.verdict := by
  simp [records, List.filter_append, List.filter_map, Function.comp_def, TestResult.record,
    TestResult.verdict]

/-- The verdicts that were collected, final and superseded, can be told from the records. -/
theorem verdicts_of_records (same : c.records.Perm c'.records) :
    (c.results.map TestResult.verdict).Perm (c'.results.map TestResult.verdict) ∧
      (c.retried.map TestResult.verdict).Perm (c'.retried.map TestResult.verdict) := by
  rw [← finals_records, ← finals_records, ← superseded_records, ← superseded_records]
  exact ⟨(same.filter _).map _, (same.filter _).map _⟩

/-- The tests of the final results can be told from the records. -/
theorem keys_of_records (c : Collector) :
    (c.records.filter fun a => a.isFinal).map (·.key) = c.results.map fun r => r.test.key := by
  have verdicts := congrArg (List.map Prod.fst) c.finals_records
  rwa [List.map_map, List.map_map] at verdicts

end Collector

/-- How attempts are answered by their tests and numbers, and how often an attempt may be repeated. -/
structure Forecast where
  answer : TestKey → Nat → Option TestStatus
  limit : Nat

namespace Forecast

variable {f : Forecast} {key : TestKey} {failures : Nat} {status : TestStatus}

/-- What will be recorded of the attempts at a test from a number on: they are repeated for as long as
they fail and the limit allows it. An attempt that panics is final. -/
def outlook (f : Forecast) (key : TestKey) (failures : Nat) : List AttemptRecord :=
  match f.answer key failures with
  | none => [⟨key, .error, true⟩]
  | some status =>
    if status.isFailure = true ∧ failures < f.limit then
      ⟨key, status, false⟩ :: f.outlook key (failures + 1)
    else [⟨key, status, true⟩]
termination_by f.limit - failures

/-- What will be recorded of the attempts at an item. -/
def ofItem (f : Forecast) (item : WorkItem) : List AttemptRecord := f.outlook item.key item.failures

/-- What will be recorded of the attempts at the items of a pool. -/
def ofPlan (f : Forecast) (planned : PoolPlan) : List AttemptRecord := planned.items.flatMap f.ofItem

theorem outlook_of_panic (panics : f.answer key failures = none) :
    f.outlook key failures = [⟨key, .error, true⟩] := by
  rw [outlook, panics]

theorem outlook_of_retry (answered : f.answer key failures = some status)
    (failed : status.isFailure = true) (short : failures < f.limit) :
    f.outlook key failures = ⟨key, status, false⟩ :: f.outlook key (failures + 1) := by
  rw [outlook, answered]
  exact if_pos ⟨failed, short⟩

theorem outlook_of_final (answered : f.answer key failures = some status)
    (final : ¬ (status.isFailure = true ∧ failures < f.limit)) :
    f.outlook key failures = [⟨key, status, true⟩] := by
  rw [outlook, answered]
  exact if_neg final

/-- Of the attempts at a test just one is final. -/
theorem finals_outlook (f : Forecast) (key : TestKey) (failures : Nat) :
    ((f.outlook key failures).filter (·.isFinal)).map (·.key) = [key] := by
  fun_induction outlook f key failures with
  | case1 failures panics => rfl
  | case2 failures status answered again ih => exact ih
  | case3 failures status answered final => rfl

theorem finals_ofPlan (f : Forecast) (planned : PoolPlan) :
    ((f.ofPlan planned).filter (·.isFinal)).map (·.key) = planned.items.map WorkItem.key := by
  unfold ofPlan
  induction planned.items with
  | nil => rfl
  | cons item rest ih =>
    rw [List.flatMap_cons, List.filter_append, List.map_append, ih, ofItem, finals_outlook]
    rfl

end Forecast

/-! ## Attempts under a plan -/

/-- Every attempt that can be made at an item of the pool, on any of its devices that may run the item
and in any world, is answered as the forecast has it. -/
structure Setting.Meets [Hosted W] (setting : Setting W) (planned : PoolPlan) (f : Forecast) :
    Prop where
  limit : setting.retry.perTest = f.limit
  answers : ∀ first ∈ planned.items, ∀ x, first.Follows x → ∀ device ∈ planned.pool.devices,
    first.compatible device.id = true → ∀ w, ∃ o w',
      AttemptContext.run ⟨⟨⟨setting.context, planned.pool⟩, device⟩, x⟩ setting w = (o, w') ∧
        Answered (f.answer x.key x.failures) o

namespace RunPlan

/-- Whichever backend of the plan makes an attempt, on whichever device and whatever happened before, its
answer counts as a status that is a function of the test and of how often it failed before. -/
def AnswersWith [Hosted W] (plan : RunPlan W) (status : TestKey → Nat → TestStatus) : Prop :=
  ∀ b ∈ plan.backends, ∀ planned ∈ plan.pools, ∀ device ∈ planned.pool.devices, ∀ (item : WorkItem) w,
    let ctx : AttemptContext := ⟨⟨⟨plan.context, planned.pool⟩, device⟩, item⟩
    ctx.CountsAs (status item.key item.failures) (ctx.answer b w).1

/-- What can be foretold of a plan whose backends answer with a status. -/
def forecast (plan : RunPlan W) (status : TestKey → Nat → TestStatus) : Forecast where
  answer key failures :=
    (plan.context.config.run.answer? (status key failures)).map TestStatus.settled
  limit := plan.context.config.retry.perTest

/-- The first backend that a list of names leads to is one of those that the names are of. -/
theorem exists_find?_of_supporting {backends : List (Backend W)} {device : Device} {test : TestCase}
    (supported : Backend.supporting backends device test ≠ []) :
    ∃ b ∈ backends,
      (Backend.supporting backends device test).head?.bind (Backend.find? backends) = some b := by
  obtain ⟨id, rest, names⟩ := List.exists_cons_of_ne_nil supported
  have named : id ∈ Backend.supporting backends device test := names ▸ List.mem_cons_self
  obtain ⟨b, hb, own⟩ := List.mem_map.1 named
  rw [names, List.head?_cons, Option.bind_some]
  cases found : Backend.find? backends id with
  | some b' => exact ⟨b', List.mem_of_find?_eq_some found, rfl⟩
  | none =>
    have missed := List.find?_eq_none.1 found b (List.mem_filter.1 hb).1
    exact absurd own (by simpa using missed)

variable [Hosted W] {registry : Registry W} {reporter : Reporter W} {config : Config} {id : RunId}
  {w w' : W} {plan : RunPlan W} {status : TestKey → Nat → TestStatus} {planned : PoolPlan}

/-- **Under an accepted plan whose backends agree every attempt is answered as foretold**, wherever and
whenever it is made. -/
theorem meets_forecast (accepted : ofConfig registry config id w = (.done plan, w'))
    (answers : plan.AnswersWith status) (transparent : (plan.setting registry reporter).IsTransparent)
    (hp : planned ∈ plan.pools) :
    (plan.setting registry reporter).Meets planned (plan.forecast status) := by
  refine ⟨rfl, fun first hfirst x follows device inPool fits => ?_⟩
  obtain ⟨origin, prepared, -⟩ := exists_origin accepted hp hfirst 0
  obtain ⟨-, -, -, pools⟩ := exists_of_ofConfig accepted
  obtain ⟨supported, named⟩ :=
    Suite.backendsFor_of_prepareItem (pools planned hp).1 prepared inPool fits
  obtain ⟨b, hb, found⟩ := exists_find?_of_supporting supported
  refine AttemptContext.exists_run transparent rfl (b := b) ?_ (answers b hb _ hp _ inPool x)
  have own : x.backendsFor device.id = Backend.supporting plan.backends device origin.test := by
    rw [← named, WorkItem.backendsFor, follows.backends, WorkItem.backendsFor]
  change (x.backendsFor device.id).head?.bind (Backend.find? plan.backends) = some b
  rw [own, found]

end RunPlan

end TestFleet
