import TestFleet.Proofs.Rule.Status
import TestFleet.Proofs.Run.Outcomes
/-!
# Statuses that say how a test ended

What workers and pools make up themselves is ERROR. So where no rule writes UNKNOWN no such result is
ever collected, and the counts of a run add up to all of its results
(`RunResult.counts_eq_total_iff`). Rules are not held to this: nothing looks at a status after the
first of them.
-/
namespace TestFleet

variable {W : Type}

/-! ## Counts -/

namespace RunResult

theorem isKnown_iff {r : RunResult} : r.IsKnown ↔ r.count (· == .unknown) = 0 := by
  unfold IsKnown PoolResult.IsKnown TestResult.IsKnown count results
  rw [List.countP_eq_zero]
  simp only [List.mem_flatMap, beq_iff_eq]
  exact ⟨fun known x ⟨p, hp, hx⟩ => known p hp x hx, fun known p hp x hx => known x ⟨p, hp, hx⟩⟩

/-- Every result is counted once. -/
theorem counts_add (r : RunResult) :
    r.passed + r.failed + r.errors + r.ignored + r.count (· == .unknown) = r.total := by
  unfold passed failed errors ignored total count
  induction r.results with
  | nil => rfl
  | cons x rest ih =>
    simp only [List.countP_cons, List.length_cons] at ih ⊢
    cases x.status <;> simp <;> omega

/-- The counts of a run add up to all of its results just if none of these is UNKNOWN. -/
theorem counts_eq_total_iff {r : RunResult} :
    r.passed + r.failed + r.errors + r.ignored = r.total ↔ r.IsKnown := by
  have all := r.counts_add
  rw [isKnown_iff]
  omega

end RunResult

section Steps

variable [Hosted W] {setting : Setting W}

/-! ## Steps of a worker -/

/-- The status of the result in hand says how the test ended. -/
def Stage.IsKnown : Stage → Prop
  | .deciding r | .offering _ r | .stashing r | .announcing r _ | .keeping r => r.IsKnown
  | .attempting | .releasing _ | .crashing _ => True

/-- The statuses of all results collected say how the tests ended. -/
structure Collector.IsKnown (c : Collector) : Prop where
  results : ∀ r ∈ c.results, r.IsKnown
  retried : ∀ r ∈ c.retried, r.IsKnown

omit [Hosted W] in
theorem Collector.IsKnown.push {c : Collector} {r : TestResult} (known : c.IsKnown)
    (of_r : r.IsKnown) : (c.push r).IsKnown :=
  ⟨List.forall_mem_append.2 ⟨known.results, List.forall_mem_singleton.2 of_r⟩, known.retried⟩

theorem TestResult.isKnown_ofError (identity : ResultIdentity) (started finished : Time.Moment)
    (trace : String) : (ofError identity started finished trace).IsKnown := nofun

/-- What a worker has in hand and what it keeps is known. -/
theorem StageChange.isKnown {ctx : AttemptContext} {s s' : Shared W} {stage stage' : Stage}
    (keeps : setting.registry.KeepsStatuses) (h : StageChange setting ctx s stage stage' s')
    (known : stage.IsKnown) (collected : s.collector.IsKnown) :
    stage'.IsKnown ∧ s'.collector.IsKnown := by
  cases h with
  | attempted run => exact ⟨AttemptContext.isKnown_of_run keeps run, collected⟩
  | violated | crashed => exact ⟨trivial, collected⟩
  | rescued | interrupted => exact ⟨TestResult.isKnown_ofError _ _ _ _, collected⟩
  | retried | settled | offered | refused | announced => exact ⟨known, collected⟩
  | stashed =>
    exact ⟨trivial, collected.results,
      List.forall_mem_append.2 ⟨collected.retried, List.forall_mem_singleton.2 known⟩⟩
  | kept => exact ⟨trivial, collected.push known⟩

namespace Worker

variable {pool : PoolContext} {w w' : Worker W} {s s' : Shared W}

/-- The status of the result that the worker has in hand says how the test ended. -/
def IsKnown (w : Worker W) : Prop :=
  match w.phase with
  | .busy _ stage => stage.IsKnown
  | _ => True

omit [Hosted W] in
theorem isKnown_of_idle (idle : w.isBusy = false) : w.IsKnown := by
  unfold isBusy at idle
  unfold IsKnown
  cases phase : w.phase <;> simp_all

theorem Effect.isKnown (keeps : setting.registry.KeepsStatuses) (h : Effect setting pool w s w' s')
    (known : w.IsKnown) (collected : s.collector.IsKnown) :
    w'.IsKnown ∧ s'.collector.IsKnown := by
  cases h with
  | none idle idle' queue collector | drop phase spent idle' items collector =>
    exact ⟨isKnown_of_idle idle', collector ▸ collected⟩
  | take idle phase' claimed collector =>
    exact ⟨by simp only [IsKnown, phase', Stage.IsKnown], collector ▸ collected⟩
  | work phase phase' change =>
    simp only [IsKnown, phase, phase'] at known ⊢
    exact change.isKnown keeps known collected

end Worker

/-! ## Steps of a pool -/

namespace PoolState

variable {p p' : PoolState W} {c c' : Common W} {m : PoolMove}

/-- The statuses of all results that are in hand, collected, or part of what the pool comes to say
how the tests ended. -/
structure IsKnown (p : PoolState W) : Prop where
  inHand : ∀ w ∈ p.workers, w.IsKnown
  collected : p.collector.IsKnown
  result : match p.phase with
    | .closing r | .finished (.ok r) => r.IsKnown
    | _ => True

omit [Hosted W] in
/-- The final result of an item that is left is a superseded attempt at it, or an ERROR. -/
theorem isKnown_settleLeft {item : WorkItem} {now : Time.Moment} {r : TestResult}
    {collector : Collector} {isUnreachable : Bool} (known : p.collector.IsKnown)
    (h : p.settleLeft item now = (r, collector, isUnreachable)) :
    r.IsKnown ∧ collector.IsKnown := by
  rcases settleLeft_eq h with ⟨-, -, reclaimed⟩ | ⟨-, -, rfl, rfl⟩
  · obtain ⟨kept, left⟩ := Collector.subset_of_reclaim? reclaimed
    obtain ⟨-, -, results, -⟩ := Collector.reclaim?_eq_some reclaimed
    exact ⟨known.retried r kept, results ▸ known.results, fun x hx => known.retried x (left hx)⟩
  · exact ⟨TestResult.isKnown_ofError _ _ _ _, known⟩

omit [Hosted W] in
theorem isKnown_ofPlan (plan : PoolPlan) : (ofPlan (W := W) plan).IsKnown := by
  refine ⟨fun w hw => Worker.isKnown_of_idle ?_, ⟨nofun, nofun⟩, trivial⟩
  exact isBusy_of_mem_ofPlan hw

omit [Hosted W] in
/-- A pool that works has come to nothing yet. -/
theorem isKnown_of_working (inHand : ∀ w ∈ p.workers, w.IsKnown) (collected : p.collector.IsKnown)
    (phase : p.phase = .working) : p.IsKnown :=
  ⟨inHand, collected, by simp only [phase]⟩

omit [Hosted W] in
theorem IsKnown.close {r : PoolResult} (keeps : setting.registry.KeepsStatuses) {off : Bool}
    (ending : p.Ending setting off) (known : p.IsKnown) (of_r : r.IsKnown) (world : W) :
    (p.close ⟨setting.context, p.plan.pool⟩ r world).1.IsKnown := by
  unfold PoolState.close
  split
  · rename_i r' world' unwound
    refine ⟨known.inHand, known.collected, ?_⟩
    refine Pipeline.keeps_unwind (P := PoolResult.IsKnown) (fun rule hr => ?_) of_r unwound
    have own : rule ∈ p.rules := List.mem_of_mem_take hr
    exact keeps.pool _ p.rules (ending.built_of_mem own) rule own
  · exact ⟨known.inHand, known.collected, trivial⟩
  · exact ⟨known.inHand, known.collected, trivial⟩

/-- Whatever happens in a pool, nothing unknown comes up. -/
theorem Change.isKnown (keeps : setting.registry.KeepsStatuses) (h : Change setting p c m p' c')
    (ending : p.Ending setting c.cancelled) (known : p.IsKnown) : p'.IsKnown := by
  have result := known.result
  cases h with
  | start phase =>
    obtain ⟨rules, depth, next, eq, allowed⟩ :=
      start_eq setting ⟨setting.context, p.plan.pool⟩ p c.world
    rw [eq]
    refine ⟨known.inHand, known.collected, ?_⟩
    cases next with
    | finished o =>
      cases o with
      | ok r => exact allowed.elim
      | error e => trivial
    | closing r => exact allowed.elim
    | _ => trivial
  | refuse | fail | drain => exact ⟨known.inHand, known.collected, trivial⟩
  | @abort e r =>
    rcases abort_eq ⟨setting.context, p.plan.pool⟩ e r p c.world with eq | ⟨m, eq⟩ <;> rw [eq] <;>
      exact ⟨known.inHand, known.collected, trivial⟩
  | @account item left unreachable =>
    obtain ⟨r, collector, _, settled, ⟨m, -, eq⟩ | ⟨count, eq⟩⟩ :=
      account_eq setting item left unreachable p c.world
    · rw [eq]
      exact ⟨known.inHand, (isKnown_settleLeft known.collected settled).2, trivial⟩
    · obtain ⟨of_r, left⟩ := isKnown_settleLeft known.collected settled
      rw [eq]
      exact ⟨known.inHand, left.push of_r, trivial⟩
  | conclude => exact ⟨known.inHand, known.collected, known.collected.results⟩
  | @close r phase =>
    simp only [phase] at result
    exact known.close keeps ending result c.world
  | @worker j w w' s' phase at_j change =>
    obtain ⟨of_w, collected⟩ := change.effect.isKnown keeps
      (known.inHand w (List.mem_of_getElem? at_j)) known.collected
    refine isKnown_of_working (fun v hv => ?_) collected phase
    rcases List.mem_or_eq_of_mem_set hv with other | rfl
    · exact known.inHand v other
    · exact of_w
  | join phase | joinFailed phase =>
    refine isKnown_of_working (fun v hv => ?_) known.collected phase
    rcases List.mem_or_eq_of_mem_set hv with other | rfl
    · exact known.inHand v other
    · trivial

end PoolState

/-! ## Runs -/

namespace RunState

variable {world : W} {quota : Nat} {plans : List PoolPlan} {s : RunState W}

/-- In a run whose rules do not write UNKNOWN nothing unknown comes up. -/
theorem Reachable.isKnown (reachable : Reachable setting (ofPlans world quota plans) s)
    (keeps : setting.registry.KeepsStatuses) {p : PoolState W} (hp : p ∈ s.pools) : p.IsKnown := by
  obtain ⟨i, at_i⟩ := List.getElem?_of_mem hp
  obtain ⟨past, trace⟩ := reachable.trace
  refine (trace.induct_ofPlans (fun _ p off => p.Ending setting off ∧ p.IsKnown)
    (fun plan _ => ⟨PoolState.ending_ofPlan setting plan, PoolState.isKnown_ofPlan plan⟩)
    (fun _ _ known => ⟨known.1.calledOff, known.2⟩) ?_ at_i).2.2
  exact fun _ _ _ _ _ _ known change =>
    ⟨change.ending known.1, change.isKnown keeps known.1 known.2⟩

/-- The results of a run whose rules do not write UNKNOWN are known. -/
theorem Reachable.isKnown_results (reachable : Reachable setting (ofPlans world quota plans) s)
    (keeps : setting.registry.KeepsStatuses) : ∀ r ∈ RunPlan.results s.outcomes, r.IsKnown := by
  intro r hr
  obtain ⟨p, hp, found⟩ := List.mem_filterMap.1 (reachable.results_perm.mem_iff.1 hr)
  have result := (reachable.isKnown keeps hp).result
  simp only [PoolState.result?_eq_some_iff.1 found] at result
  exact result

end RunState

end Steps

/-- **UNKNOWN comes only from a rule that writes it.** An unwinding gives an UNKNOWN result only if
one of the rules that were entered makes UNKNOWN of a known status: a result is settled once, before
the first of them. So where no rule of the registry does this no UNKNOWN result is ever collected,
whoever moves when, and the counts of every execution that is done add up to all of its results. -/
theorem statuses_known [Hosted W] {plan : RunPlan W} {course : RunState W → RunState W}
    {registry : Registry W} {reporter : Reporter W} (keeps : registry.KeepsStatuses)
    (courses : RunPlan.IsCourse (plan.setting registry reporter) plan.pools course) :
    (∀ (p : Pipeline W AttemptContext TestResult) ctx carried depth w r w',
      p.unwind ctx carried depth w = (.done r, w') → r.status = .unknown →
      ∃ rule ∈ p.rules.take depth, ¬ rule.Keeps ctx TestResult.IsKnown) ∧
    (∀ world quota s,
      RunState.Reachable (plan.setting registry reporter) (.ofPlans world quota plan.pools) s →
      ∀ p ∈ s.pools, ∀ r ∈ p.collector.results ++ p.collector.retried, r.status ≠ .unknown) ∧
    ∀ w r w', plan.executeBy course registry reporter w = (.done r, w') →
      r.passed + r.failed + r.errors + r.ignored = r.total := by
  refine ⟨fun p ctx carried depth w r w' unwound unknown => ?_, ?_, fun w r w' done => ?_⟩
  · by_contra none
    refine unwind_isKnown (fun rule hr => ?_) unwound unknown
    by_contra writes
    exact none ⟨rule, hr, writes⟩
  · intro world quota s reachable p hp
    have known := (reachable.isKnown keeps hp).collected
    exact List.forall_mem_append.2 ⟨known.results, known.retried⟩
  · obtain ⟨rules, depth, s, found, v, gathers, -, unwound⟩ := RunPlan.exists_gathers done
    obtain ⟨_, begun, -, -, course⟩ := gathers.entered
    obtain ⟨reachable, -⟩ := courses begun
    rw [← course] at reachable
    have gathered : found.IsKnown := gathers.result ▸ reachable.isKnown_results keeps
    refine RunResult.counts_eq_total_iff.2 ?_
    refine Pipeline.keeps_unwind (P := RunResult.IsKnown) (fun rule hr => ?_) gathered unwound
    exact keeps.run _ rules gathers.built rule (List.mem_of_mem_take hr)

/-! ## A rule that writes UNKNOWN -/

namespace Sample

/-- Writes UNKNOWN to every result. -/
def forgetting : Rule Host AttemptContext TestResult where
  name := "forgetting"
  before _ := .give ()
  after _ r := .give { r with status := .unknown }

/-- The registry of the rule. -/
def forgetter : Registry Host :=
  Registry.empty.withAttemptRule "sample.rule" fun _ _ => .done [forgetting]

/-- One device, one test that fails, and the rules of attempts that are configured. -/
def attempted (rules : List PluginEntry) : RunPlan Host where
  context :=
    ⟨default, { devices := default, suite := default, rules := { testCaseRun := rules } }, "", default⟩
  backends := [backend]
  pools := [⟨⟨⟨"sample"⟩, [device "a"]⟩, [item]⟩]

/-- The statuses of the results of pools. -/
def statuses (outcomes : List (Except RunError PoolResult)) : List TestStatus :=
  ((outcomes.filterMap Except.toOption).flatMap (·.results)).map (·.status)

/-- Where the run itself has no rules its statuses are those of the pools that came to a result. -/
theorem statuses_of_unruled {plan : RunPlan Host} {registry : Registry Host}
    (unruled : registry.rulesOfRun plan.context = .done []) {w w' : Host} {r : RunResult}
    (done : plan.execute registry .silent w = (.done r, w')) :
    (r.results.map (·.status)).Perm (statuses (RunState.play (plan.setting registry .silent)
      (.ofPlans w (plan.setting registry .silent).retry.total plan.pools)).outcomes) :=
  ((pools_of_unruled unruled done).flatMap_right _).map _

theorem count_eq (r : RunResult) (matching : TestStatus → Bool) :
    r.count matching = (r.results.map (·.status)).countP matching :=
  List.countP_map.symm

end Sample

open Sample in
/-- With built-in rules the one result is counted. -/
theorem statuses_of_builtin : ∃ r w',
    (attempted [⟨"builtin.tag-retry", none, []⟩]).execute (Registry.builtin 0) .silent default =
      (.done r, w') ∧
      r.total = 1 ∧ r.passed + r.failed + r.errors + r.ignored = 1 := by
  obtain ⟨r, done⟩ := exists_of_isDone
    (x := (attempted [⟨"builtin.tag-retry", none, []⟩]).execute (Registry.builtin 0) .silent default)
    (by decide +kernel)
  have courses := RunPlan.isCourse_play
    ((attempted [⟨"builtin.tag-retry", none, []⟩]).setting (Registry.builtin 0) .silent)
    (attempted [⟨"builtin.tag-retry", none, []⟩]).pools
  have all := (statuses_known (Registry.keepsStatuses_builtin 0) courses).2.2 _ r _ done
  have total : r.total = 1 := by
    have length := (statuses_of_unruled rfl done).length_eq
    rw [List.length_map] at length
    exact length.trans (by decide +kernel)
  exact ⟨r, _, done, total, all.trans total⟩

open Sample in
/-- A rule writes UNKNOWN to the result of the one test, which fails. The unwinding gives it as it
is, and the run is a success whose counts do not have it. -/
theorem uncounted_of_forgetting :
    (∃ ctx carried w r w', Pipeline.unwind ⟨.attempt, [forgetting]⟩ ctx carried 1 w = (.done r, w') ∧
      r.status = .unknown) ∧
    ∃ r w', (attempted [⟨"sample.rule", none, []⟩]).execute forgetter .silent default = (.done r, w') ∧
      r.total = 1 ∧ r.passed + r.failed + r.errors + r.ignored = 0 ∧ r.success = true := by
  refine ⟨⟨default, default, default, _, _, rfl, rfl⟩, ?_⟩
  obtain ⟨r, done⟩ := exists_of_isDone
    (x := (attempted [⟨"sample.rule", none, []⟩]).execute forgetter .silent default)
    (by decide +kernel)
  have known : r.results.map (·.status) = [.unknown] := by
    have perm := statuses_of_unruled rfl done
    rw [show statuses _ = [.unknown] by decide +kernel] at perm
    exact List.perm_singleton.1 perm
  have total := congrArg List.length known
  rw [List.length_map] at total
  refine ⟨r, _, done, total, ?_, ?_⟩
  · simp only [RunResult.passed, RunResult.failed, RunResult.errors, RunResult.ignored, count_eq, known]
    decide
  · simp [RunResult.success, RunResult.failed, RunResult.errors, count_eq, known]

end TestFleet
