import TestFleet.Proofs.Rule.Unwinding
import TestFleet.Proofs.Run.Account
/-!
# How pools end

A pool ends with a result, with an error, or by a panic. Its result is its own; a panic comes from
building its rules, from one of them or from the reporter; and an error calls the run off, but for
two kinds that end the pool alone (`PoolState.Ending`). A run that was called off lets no pool succeed
that has not got past its workers.
-/
namespace TestFleet

variable {W : Type}

namespace Setting

/-- What may panic in a pool outside its workers: building its rules, one of the rules, or the
reporter. -/
inductive PoolPanics (setting : Setting W) (pool : DevicePool) (m : String) : Prop where
  | building (panicked : setting.registry.rulesOfPool ⟨setting.context, pool⟩ = .panicked m)
  | ruling {rules : List (Rule W PoolContext PoolResult)} {rule : Rule W PoolContext PoolResult}
    (built : setting.registry.rulesOfPool ⟨setting.context, pool⟩ = .done rules) (hr : rule ∈ rules)
    (panics : rule.Panics ⟨setting.context, pool⟩ m)
  | reporting {r : TestResult} {w : W} (panicked : (setting.reporter.tested r w).1 = .panicked m)

/-- The errors that end a pool alone: its rules cannot be built, or one of them changes the identity
of the pool's result. -/
inductive EndsAlone (setting : Setting W) (pool : DevicePool) : RunError → Prop where
  | unbuilt {e : ConfigError}
    (failed : setting.registry.rulesOfPool ⟨setting.context, pool⟩ = .failed e) :
    EndsAlone setting pool (.config e)
  | violated {rules : List (Rule W PoolContext PoolResult)} {rule : Rule W PoolContext PoolResult}
    {e : PipelineError}
    (built : setting.registry.rulesOfPool ⟨setting.context, pool⟩ = .done rules) (hr : rule ∈ rules)
    (violates : rule.Violates .pool ⟨setting.context, pool⟩ e) :
    EndsAlone setting pool (.pipeline e)

end Setting

namespace PoolState

/-- How the pool ends, or is about to: with its own result, by a panic that has a cause, or with an
error that calls the run off or ends the pool alone. -/
structure Ending (setting : Setting W) (p : PoolState W) (off : Bool) : Prop where
  built : p.rules = [] ∨ setting.registry.rulesOfPool ⟨setting.context, p.plan.pool⟩ = .done p.rules
  fatal : p.fatal.isSome = true → off = true
  ending : match p.phase with
    | .aborting .. => off = true
    | .finished (.error e) => off = true ∨ setting.EndsAlone p.plan.pool e
    | .closing r | .finished (.ok r) => r.pool = p.id
    | .lost m => setting.PoolPanics p.plan.pool m
    | _ => True

variable {setting : Setting W} {p p' : PoolState W}

theorem Ending.calledOff {off : Bool} (h : p.Ending setting off) : p.Ending setting true := by
  refine ⟨h.built, fun _ => rfl, ?_⟩
  have ending := h.ending
  cases phase : p.phase with
  | finished o =>
    cases o with
    | ok r => simpa only [phase] using ending
    | error e => exact .inl rfl
  | closing r => simpa only [phase] using ending
  | lost m => simpa only [phase] using ending
  | _ => trivial

theorem Ending.built_of_mem {off : Bool} {rule : Rule W PoolContext PoolResult}
    (h : p.Ending setting off) (hr : rule ∈ p.rules) :
    setting.registry.rulesOfPool ⟨setting.context, p.plan.pool⟩ = .done p.rules :=
  h.built.resolve_left (List.ne_nil_of_mem hr)

/-- A pool that works has not ended. -/
theorem ending_of_working {off : Bool}
    (built : p.rules = [] ∨
      setting.registry.rulesOfPool ⟨setting.context, p.plan.pool⟩ = .done p.rules)
    (fatal : p.fatal.isSome = true → off = true) (phase : p.phase = .working) :
    p.Ending setting off :=
  ⟨built, fatal, by simp only [phase]⟩

theorem ending_ofPlan (setting : Setting W) (plan : PoolPlan) :
    (ofPlan plan).Ending setting false :=
  ⟨.inl rfl, nofun, trivial⟩

/-- A pool gives up only as the run is called off. -/
theorem calledOff_of_failure? {off : Bool} {e : RunError} (failed : p.failure? off = some e) :
    p.fatal.isSome = true ∨ off = true := by
  unfold failure? at failed
  cases fatal : p.fatal with
  | some e => exact .inl rfl
  | none =>
    rw [fatal] at failed
    exact .inr (Option.ite_none_right_eq_some.1 failed).1

variable {c c' : Common W} {m : PoolMove} {off : Bool}

theorem Ending.start (h : p.Ending setting off) (world : W) :
    (p.start setting ⟨setting.context, p.plan.pool⟩ world).1.Ending setting off := by
  unfold PoolState.start
  split
  · rename_i e failed
    exact ⟨h.built, h.fatal, .inr (.unbuilt failed)⟩
  · rename_i m panicked
    exact ⟨h.built, h.fatal, .building panicked⟩
  · rename_i rules built
    dsimp only
    split
    · split
      · exact ⟨.inr built, h.fatal, trivial⟩
      · exact ⟨.inr built, h.fatal, trivial⟩
    · exact ⟨.inr built, h.fatal, trivial⟩
    · rename_i m world' panicked
      obtain ⟨rule, hr, panics⟩ := Pipeline.panics_of_enter panicked
      exact ⟨.inr built, h.fatal, .ruling built hr panics⟩

theorem Ending.abort (h : p.Ending setting off) (called : off = true) (e : RunError) (r : PoolResult)
    (world : W) :
    (p.abort ⟨setting.context, p.plan.pool⟩ e r world).1.Ending setting off := by
  unfold PoolState.abort
  split
  · rename_i m world' panicked
    obtain ⟨rule, hr, panics⟩ := Pipeline.panics_of_release panicked
    exact ⟨h.built, h.fatal, .ruling (h.built_of_mem hr) hr panics⟩
  · exact ⟨h.built, h.fatal, .inl called⟩

theorem Ending.close {r : PoolResult} (h : p.Ending setting off) (own : r.pool = p.id) (world : W) :
    (p.close ⟨setting.context, p.plan.pool⟩ r world).1.Ending setting off := by
  unfold PoolState.close
  split
  · rename_i r' world' unwound
    have same := Pipeline.identity_of_unwind unwound
    exact ⟨h.built, h.fatal, Eq.trans same own⟩
  · rename_i e world' failed
    obtain ⟨rule, hr, violates⟩ := Pipeline.violates_of_unwind failed
    exact ⟨h.built, h.fatal, .inr (.violated (h.built_of_mem hr) hr violates)⟩
  · rename_i m world' panicked
    obtain ⟨rule, hr, panics⟩ := Pipeline.panics_of_unwind panicked
    exact ⟨h.built, h.fatal, .ruling (h.built_of_mem hr) hr panics⟩

variable [Hosted W]

/-- **A pool ends in one of these ways.** -/
theorem Change.ending (h : Change setting p c m p' c') (known : p.Ending setting c.cancelled) :
    p'.Ending setting c'.cancelled := by
  have ending := known.ending
  cases h with
  | start phase => exact known.start c.world
  | refuse => exact ⟨known.built, fun _ => rfl, rfl⟩
  | fail phase gone failed =>
    refine ⟨known.built, known.fatal, ?_⟩
    rcases calledOff_of_failure? failed with fatal | off
    · exact known.fatal fatal
    · exact off
  | drain => exact ⟨known.built, known.fatal, trivial⟩
  | @abort e r phase =>
    simp only [phase] at ending
    exact known.abort ending e r c.world
  | @account item left unreachable phase =>
    obtain ⟨r, collector, _, -, ⟨m, panicked, eq⟩ | ⟨count, eq⟩⟩ :=
      account_eq setting item left unreachable p c.world
    · rw [eq]
      exact ⟨known.built, known.fatal, .reporting panicked⟩
    · rw [eq]
      exact ⟨known.built, known.fatal, trivial⟩
  | conclude => exact ⟨known.built, known.fatal, rfl⟩
  | @close r phase =>
    simp only [phase] at ending
    exact known.close ending c.world
  | worker phase at_j change =>
    have stays := (Change.worker phase at_j change).cancelled
    exact ending_of_working known.built (fun fatal => stays (known.fatal fatal)) phase
  | join phase => exact ending_of_working known.built known.fatal phase
  | joinFailed phase => exact ending_of_working known.built (fun _ => rfl) phase

end PoolState

/-! ## Pools of a run that was called off -/

/-- Whether a pool has got past its workers, and does not fail. -/
def PoolPhase.isPast : PoolPhase → Bool
  | .accounting .. | .closing _ | .finished (.ok _) => true
  | _ => false

section Steps

variable [Hosted W] {setting : Setting W}

/-- In a run that was called off no pool gets past its workers. -/
theorem PoolState.Change.isPast {p p' : PoolState W} {c c' : Common W} {m : PoolMove}
    (h : Change setting p c m p' c') (off : c.cancelled = true) (behind : p.phase.isPast = false) :
    p'.phase.isPast = false := by
  cases h with
  | start =>
    obtain ⟨rules, depth, next, eq, allowed⟩ :=
      start_eq setting ⟨setting.context, p.plan.pool⟩ p c.world
    rw [eq]
    cases next with
    | working | refused | lost => rfl
    | finished o =>
      cases o with
      | ok r => exact allowed.elim
      | error e => rfl
    | _ => exact allowed.elim
  | drain phase gone fine =>
    have on := (failure?_eq_none_iff.1 fine).2
    rw [off] at on
    cases on
  | @abort e r =>
    rcases abort_eq ⟨setting.context, p.plan.pool⟩ e r p c.world with eq | ⟨m, eq⟩ <;> rw [eq] <;> rfl
  | account phase | conclude phase | close phase =>
    rw [phase] at behind
    cases behind
  | worker phase | join phase | joinFailed phase =>
    simp only [withWorker, phase, PoolPhase.isPast]
  | refuse | fail => rfl

namespace RunState

variable {world : W} {quota : Nat} {plans : List PoolPlan} {s t : RunState W} {p : PoolState W}

/-- The pools of a run end as pools do. -/
theorem Reachable.ending (reachable : Reachable setting (ofPlans world quota plans) s)
    (hp : p ∈ s.pools) : p.Ending setting s.common.cancelled := by
  obtain ⟨i, at_i⟩ := List.getElem?_of_mem hp
  obtain ⟨past, trace⟩ := reachable.trace
  exact (trace.induct_ofPlans (fun _ p off => p.Ending setting off)
    (fun plan _ => PoolState.ending_ofPlan setting plan) (fun _ _ ending => ending.calledOff)
    (fun _ _ _ _ _ _ ending change => change.ending ending) at_i).2

/-- Once a run is called off no pool that is not past its workers gets past them. -/
theorem Reachable.isPast {i : Nat} {q : PoolState W} (further : Reachable setting s t)
    (tallied : s.Tallied) (off : s.common.cancelled = true) (at_i : s.pools[i]? = some p)
    (behind : p.phase.isPast = false) (at_i' : t.pools[i]? = some q) : q.phase.isPast = false := by
  obtain ⟨past, trace⟩ := further.trace
  refine (trace.induct (fun _ p off => off = true ∧ p.phase.isPast = false)
    (fun _ _ known => ⟨rfl, known.2⟩) ?_ tallied ?_ q at_i').2
  · exact fun _ _ _ _ _ _ known change => ⟨change.cancelled known.1, change.isPast known.1 known.2⟩
  · intro p' again
    obtain rfl := Option.some.inj (at_i.symm.trans again)
    exact ⟨off, behind⟩

end RunState

/-- **A pool that fails calls the run off**, unless its rules cannot be built or one of them changes
the identity of its result: these errors end it alone. Where the run was called off no pool gets
past its workers any more, so that each pool that had not done so fails as well or is ended by a
panic. -/
theorem failing_pools_cancel {world : W} {quota : Nat} {plans : List PoolPlan} {s : RunState W}
    {p : PoolState W} {e : RunError}
    (reachable : RunState.Reachable setting (.ofPlans world quota plans) s) (hp : p ∈ s.pools)
    (failed : p.phase = .finished (.error e)) :
    setting.EndsAlone p.plan.pool e ∨
      s.common.cancelled = true ∧ ∀ (t : RunState W) (i : Nat) (q q' : PoolState W),
        RunState.Reachable setting s t → s.pools[i]? = some q → q.phase.isPast = false →
        t.pools[i]? = some q' → q'.phase.isPast = false := by
  have ending := (reachable.ending hp).ending
  simp only [failed] at ending
  rcases ending with off | alone
  · exact .inr ⟨off, fun _ _ _ _ further at_i behind at_i' =>
      further.isPast reachable.tallied off at_i behind at_i'⟩
  · exact .inl alone

end Steps

/-! ## A pool that is refused, and one whose result is given another name -/

namespace Sample

/-- Refuses every pool. -/
def refusal : Rule Host PoolContext PoolResult where
  name := "refusal"
  before _ := .fail (.ofMessage "refused")
  after _ r := .give r

/-- Gives the result of every pool another name. -/
def mislabelling : Rule Host PoolContext PoolResult where
  name := "mislabelling"
  before _ := .give ()
  after _ r := .give { r with pool := ⟨r.pool.name ++ " "⟩ }

/-- The sample with one rule on pools, and none on devices. -/
def ruledBy (rule : Rule Host PoolContext PoolResult) : Setting Host :=
  { setting with
    context := ⟨default, { config with rules := { pool := [⟨"sample.rule", none, []⟩] } }, "", default⟩
    registry := Registry.empty.withPoolRule "sample.rule" fun _ _ => .done [rule] }

/-- Two pools of one device each, with the same test. -/
def pair : List PoolPlan :=
  [⟨⟨⟨"first"⟩, [device "a"]⟩, [item]⟩, ⟨⟨⟨"second"⟩, [device "b"]⟩, [item]⟩]

/-- The first pool is run to its end: its only test fails, and there are no retries. -/
def alone : List RunMove :=
  [.pool 0, .worker 0 0 .proceed, .worker 0 0 .claim] ++ .replicate 5 (.worker 0 0 .proceed) ++
    [.worker 0 0 .quit, .worker 0 0 .proceed, .join 0 0] ++ .replicate 3 (.pool 0)

/-- The error that the pool has failed with. -/
def failedWith? (p : PoolState Host) : Option RunError :=
  match p.phase with
  | .finished (.error e) => some e
  | _ => none

theorem failedWith?_eq_some {p : PoolState Host} {e : RunError} (h : failedWith? p = some e) :
    p.phase = .finished (.error e) := by
  unfold failedWith? at h
  split at h
  · rename_i phase
    cases h
    exact phase
  · cases h

end Sample

open Sample in
/-- The first pool is refused, and so the run is called off. -/
theorem cancelled_of_refusal : ∃ s p e,
    RunState.Reachable (ruledBy refusal) (.ofPlans default 0 pair) s ∧ p ∈ s.pools ∧
      p.phase = .finished (.error e) ∧ s.common.cancelled = true := by
  obtain ⟨past, s, trace, passes⟩ := RunState.exists_trace_of_follow (ruledBy refusal)
    (.ofPlans default 0 pair) (.replicate 3 (.pool 0))
    (fun run => run.2.pools.any fun p => failedWith? p ==
      some (.pipeline (.before .pool "refusal" (.ofMessage "refused")))) (by decide +kernel)
  obtain ⟨p, hp, failed⟩ := List.any_eq_true.1 passes
  have failed := failedWith?_eq_some (eq_of_beq failed)
  refine ⟨s, p, _, trace.reachable, hp, failed, ?_⟩
  rcases failing_pools_cancel trace.reachable hp failed with alone | ⟨off, -⟩
  · cases alone with
    | violated built hr violates =>
      obtain ⟨_, _, _, _, -, -, other⟩ := violates
      cases other
  · exact off

open Sample in
/-- The result of the first pool is given another name. The pool fails, and the run goes on. -/
theorem uncancelled_of_mislabelling : ∃ s p e,
    RunState.Reachable (ruledBy mislabelling) (.ofPlans default 0 pair) s ∧ p ∈ s.pools ∧
      p.phase = .finished (.error e) ∧ s.common.cancelled = false := by
  obtain ⟨past, s, trace, passes⟩ := RunState.exists_trace_of_follow (ruledBy mislabelling)
    (.ofPlans default 0 pair) alone
    (fun run => !run.2.common.cancelled && run.2.pools.any fun p => (failedWith? p).isSome)
    (by decide +kernel)
  simp only [Bool.and_eq_true, Bool.not_eq_true'] at passes
  obtain ⟨p, hp, failed⟩ := List.any_eq_true.1 passes.2
  obtain ⟨e, failed⟩ := Option.isSome_iff_exists.1 failed
  exact ⟨s, p, e, trace.reachable, hp, failedWith?_eq_some failed, passes.1⟩

end TestFleet
