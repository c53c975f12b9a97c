import TestFleet.Proofs.Plugin.Builtin
import TestFleet.Proofs.Run.Numbering
import TestFleet.Proofs.Run.Plan
import TestFleet.Run.Execute
/-!
# Where attempts are made

A worker has only items that its device may run (`PoolState.Fit`), and a retry names the backends that
the planned item names and may run nowhere that the planned item may not (`WorkItem.Follows`). What
was planned names, on each device that may run it, the backends that support its test there, in the
order of the configuration. So an attempt finds its backend, and it is the first that will do.
-/
namespace TestFleet

open WorkItem (Inherited)

variable {W : Type}

/-! ## Retries and devices -/

/-- An attempt at a planned item: the same test with the same backends, and no more devices. -/
structure WorkItem.Follows (first x : WorkItem) : Prop where
  test : x.test = first.test
  included : x.included = first.included
  excluded : first.excluded ⊆ x.excluded
  backends : x.backends = first.backends

namespace WorkItem

variable {first x : WorkItem}

theorem Follows.compatible (follows : first.Follows x) {d : DeviceId}
    (fits : x.compatible d = true) : first.compatible d = true := by
  rw [compatible_iff] at fits ⊢
  exact ⟨fun excluded => fits.1 (follows.excluded excluded), follows.included ▸ fits.2⟩

/-- The next attempt follows what the attempt before it follows. -/
theorem Follows.nextAttempt (follows : first.Follows x) (settings : RetrySettings)
    (failed : DeviceId) (pool : DevicePool) : first.Follows (x.nextAttempt settings failed pool) := by
  unfold WorkItem.nextAttempt
  dsimp only
  split
  · exact { follows with
      excluded := fun d hd => mem_addDevices.2 (.inl (follows.excluded hd)) }
  · exact { follows with }

theorem inherited_follows (settings : RetrySettings) (pool : DevicePool) :
    Inherited settings pool fun x => x.key = first.key → first.Follows x :=
  fun _ failed _ follows own => (follows (key_nextAttempt ▸ own)).nextAttempt settings failed pool

end WorkItem

section Steps

variable [Hosted W] {setting : Setting W}

namespace Worker

variable {pool : PoolContext} {w w' : Worker W} {s s' : Shared W}

omit [Hosted W] in
theorem mem_attempting {x : WorkItem} : x ∈ w.attempting ↔ w.phase = .busy x .attempting := by
  unfold attempting
  split
  · rename_i phase
    simp [phase, eq_comm]
  · rename_i other
    simp only [List.not_mem_nil, false_iff]
    exact other x

/-- What the worker holds is for its device. -/
def Fit (w : Worker W) : Prop :=
  match w.phase with
  | .busy item _ => item.compatible w.device.id = true
  | _ => True

omit [Hosted W] in
theorem fit_of_idle (idle : w.isBusy = false) : w.Fit := by
  unfold isBusy at idle
  unfold Fit
  cases phase : w.phase <;> simp_all

/-- A worker takes up only what is for its device, and keeps it until it puts it down. -/
theorem Effect.fit (h : Effect setting pool w s w' s') (device : w'.device = w.device)
    (fit : w.Fit) : w'.Fit := by
  cases h with
  | none idle idle' => exact fit_of_idle idle'
  | take idle phase' claimed =>
    obtain ⟨_, _, -, -, fits, -⟩ := WorkQueue.claim?_eq_some_iff.1 claimed
    simpa only [Fit, phase', device] using fits
  | work phase phase' change =>
    simpa only [Fit, phase, phase', device] using fit
  | drop phase spent idle' => exact fit_of_idle idle'

end Worker

namespace PoolState

variable {p p' : PoolState W} {c c' : Common W} {m : PoolMove}

/-- What the workers of the pool hold is for their devices. -/
def Fit (p : PoolState W) : Prop := ∀ w ∈ p.workers, w.Fit

omit [Hosted W] in
theorem fit_ofPlan (plan : PoolPlan) : (ofPlan (W := W) plan).Fit := fun _ hw =>
  Worker.fit_of_idle (isBusy_of_mem_ofPlan hw)

theorem Change.fit (h : Change setting p c m p' c') (fit : p.Fit) : p'.Fit := by
  intro v hv
  rcases h.own_or_shifts with rfl | ⟨j, w, w', -, shifts⟩
  · exact fit v (h.goesOn.workers ▸ hv)
  · rcases shifts.eq_or_mem hv with rfl | other
    · exact shifts.effect.fit shifts.device (fit w shifts.mem)
    · exact fit v other

end PoolState

/-! ## Attempts of a run -/

namespace RunState

variable {world : W} {quota i : Nat} {plans : List PoolPlan} {s : RunState W} {plan : PoolPlan}
  {v : Worker W} {x : WorkItem}

/-- A worker of a pool is about to make an attempt. -/
def Attempts (s : RunState W) (i : Nat) (v : Worker W) (x : WorkItem) : Prop :=
  ∃ p, s.pools[i]? = some p ∧ v ∈ p.workers ∧ x ∈ v.attempting

/-- An attempt follows a planned item, on a device of the pool that may run it. -/
theorem Reachable.exists_planned (reachable : Reachable setting (ofPlans world quota plans) s)
    (planned : plans[i]? = some plan) (distinct : WorkItem.Distinct plan.items)
    (attempt : s.Attempts i v x) :
    (∃ first ∈ plan.items, first.Follows x) ∧ v.device ∈ plan.pool.devices ∧
      x.compatible v.device.id = true := by
  obtain ⟨p, at_i, hv, made⟩ := attempt
  obtain ⟨history, trace⟩ := reachable.trace
  obtain ⟨own, fit⟩ := trace.induct_ofPlans (fun _ p _ => p.Fit)
    (fun plan _ => PoolState.fit_ofPlan plan) (fun _ _ fit => fit)
    (fun _ _ _ _ _ _ fit change => change.fit fit) at_i
  obtain rfl := Option.some.inj (planned.symm.trans own)
  have held : x ∈ p.inPlay :=
    PoolState.mem_inPlay.2 (.inr ⟨v, hv, v.attempting_subset_holding made⟩)
  have queued := WorkQueue.firsts_of_distinct distinct
  have known : ∃ first ∈ p.plan.items, first.key = x.key := by
    have inherited : Inherited setting.retry p.plan.pool
        fun x => ∃ first ∈ p.plan.items, first.key = x.key := by
      intro x failed _ known
      rwa [WorkItem.key_nextAttempt]
    refine (trace.inherits planned inherited (fun x hx => ⟨x, ?_, rfl⟩) at_i).2 x held
    rwa [queued] at hx
  obtain ⟨first, hfirst, same⟩ := known
  have follows : x.key = first.key → first.Follows x := by
    refine (trace.inherits planned (WorkItem.inherited_follows _ _) (fun x hx own => ?_) at_i).2 x held
    rw [PoolState.eq_of_key_eq (queued.symm ▸ hfirst) hx own]
    exact ⟨rfl, rfl, List.Subset.refl _, rfl⟩
  refine ⟨⟨first, hfirst, follows same.symm⟩, ?_, ?_⟩
  · rw [← (reachable.settled at_i).staffed]
    exact List.mem_map_of_mem hv
  · have fit := fit v hv
    simpa only [Worker.Fit, Worker.mem_attempting.1 made] using fit

end RunState

/-! ## Plans -/

/-- Rules that make no item up come to none that was not there. -/
theorem SuiteRule.foldl_subset {ctx : PoolContext} {rules : List SuiteRule}
    (subset : ∀ rule ∈ rules, ∀ items, rule.apply ctx items ⊆ items) (items : List WorkItem) :
    rules.foldl (fun items rule => rule.apply ctx items) items ⊆ items := by
  induction rules generalizing items with
  | nil => exact List.Subset.refl _
  | cons rule rest ih =>
    have later := ih fun rule hr => subset rule (List.mem_cons_of_mem _ hr)
    exact fun x hx => subset rule List.mem_cons_self items (later _ hx)

namespace RunPlan

variable {registry : Registry W} {seed : UInt64} {config : Config} {id : RunId} {w w' : W}
  {plan : RunPlan W} {planned : PoolPlan} {first : WorkItem}

/-- With built-in backends a plan has those of the configuration, in order and under different names. -/
theorem backends_of_ofConfig (builtin : registry.backends = (Registry.builtin seed).backends)
    (accepted : ofConfig registry config id w = (.done plan, w')) :
    List.Forall₂ (fun e b => registry.backend e = .done b ∧ b.id = e.label) config.backends
        plan.backends ∧
      (plan.backends.map (·.id)).Nodup := by
  obtain ⟨-, labels, built, -⟩ := exists_of_ofConfig accepted
  have each : List.Forall₂ (fun e b => registry.backend e = .done b ∧ b.id = e.label)
      config.backends plan.backends :=
    (Outcome.collect_eq_done_iff.1 built).imp fun e b made =>
      ⟨made, Registry.id_of_builtin_backend builtin made⟩
  have names : config.backends.map PluginEntry.label = plan.backends.map (·.id) := by
    refine List.forall₂_eq_eq_eq ▸ List.forall₂_map_left_iff.2 (List.forall₂_map_right_iff.2 ?_)
    exact each.imp fun e b built => built.2.symm
  exact ⟨each, names ▸ labels⟩

/-- A planned item was prepared from one that the suite of its pool came to: with the built-in rules on
suites that is the item of a listed test. -/
theorem exists_origin (accepted : ofConfig registry config id w = (.done plan, w'))
    (hp : planned ∈ plan.pools) (hfirst : first ∈ planned.items) (seed : UInt64) :
    ∃ origin, Suite.prepareItem planned.pool plan.backends origin = .ok first ∧
      (registry.suiteRules = (Registry.builtin (W := W) seed).suiteRules →
        ∃ tests, Suite.tests config.suite (Hosted.host w').files = .ok tests ∧
          ∃ d ∈ tests, d.item = origin) := by
  obtain ⟨own, -, -, pools⟩ := exists_of_ofConfig accepted
  obtain ⟨-, loaded, rules, load, reshaping, prepared⟩ := exists_of_ofPool (pools planned hp).2
  obtain ⟨origin, reshaped, prepared⟩ := Suite.exists_of_mem_prepare prepared hfirst
  refine ⟨origin, prepared, fun builtin => ?_⟩
  obtain ⟨tests, read, rfl⟩ := map_eq_ok_iff.1 load
  have kept := SuiteRule.foldl_subset (Registry.subset_of_builtin_suiteRule builtin reshaping)
    (Suite.itemsFor planned.pool tests)
  obtain ⟨d, hd, listed⟩ := List.mem_map.1 (List.mem_filter.1 (kept reshaped)).1
  exact ⟨tests, own ▸ read, d, hd, listed⟩

end RunPlan

/-- **Every attempt is made where it may be made, on the first backend that will do.** Let a plan be
accepted with built-in backends. Its backends are those of the configuration, in order. Each
planned item was prepared from one that its suite came to, which is a listed test's if the rules on
suites are built-in too. In every run each attempt is one at a planned item, on a device of the
pool that may run what the item was prepared from, and some backend supports the test there: the
attempt finds the first that does. -/
theorem attempts_eligible {registry : Registry W} {reporter : Reporter W} {seed : UInt64}
    {config : Config} {id : RunId} {w w' : W} {plan : RunPlan W}
    (builtin : registry.backends = (Registry.builtin seed).backends)
    (accepted : RunPlan.ofConfig registry config id w = (.done plan, w')) :
    List.Forall₂ (fun e b => registry.backend e = .done b ∧ b.id = e.label) config.backends
      plan.backends ∧
    ∀ (i : Nat) (planned : PoolPlan), plan.pools[i]? = some planned →
      (∀ first ∈ planned.items, ∃ origin,
        Suite.prepareItem planned.pool plan.backends origin = .ok first ∧
          (registry.suiteRules = (Registry.builtin (W := W) seed).suiteRules →
            ∃ tests, Suite.tests config.suite (Hosted.host w').files = .ok tests ∧
              ∃ d ∈ tests, d.item = origin)) ∧
      ∀ (world : W) (quota : Nat) (s : RunState W) (v : Worker W) (x : WorkItem),
        RunState.Reachable (plan.setting registry reporter) (.ofPlans world quota plan.pools) s →
        s.Attempts i v x →
          v.device ∈ planned.pool.devices ∧
          (∃ first ∈ planned.items, x.test = first.test ∧
            ∀ origin, Suite.prepareItem planned.pool plan.backends origin = .ok first →
              origin.compatible v.device.id = true ∧
                ∀ d : TestDescriptor, d.item = origin → d.Allows v.device.id) ∧
          ∃ b, AttemptContext.backend? ⟨⟨⟨plan.context, planned.pool⟩, v.device⟩, x⟩ plan.backends =
              some b ∧
            plan.backends.find? (fun b => b.supports v.device x.test) = some b := by
  obtain ⟨backends, names⟩ := RunPlan.backends_of_ofConfig builtin accepted
  refine ⟨backends, fun i planned at_i => ?_⟩
  have hp := List.mem_of_getElem? at_i
  refine ⟨fun first hfirst => RunPlan.exists_origin accepted hp hfirst seed, ?_⟩
  intro world quota s v x reachable attempt
  obtain ⟨⟨first, hfirst, follows⟩, inPool, fits⟩ := reachable.exists_planned at_i
    (RunPlan.distinct_of_ofConfig accepted planned hp) attempt
  have fits := follows.compatible fits
  refine ⟨inPool, ⟨first, hfirst, follows.test, fun origin prepared => ?_⟩, ?_⟩
  · have allowed := Suite.compatible_of_prepareItem prepared fits
    exact ⟨allowed, fun d listed => TestDescriptor.allows_iff.2 (listed ▸ allowed)⟩
  · obtain ⟨origin, prepared, -⟩ := RunPlan.exists_origin accepted hp hfirst seed
    obtain ⟨-, -, -, pools⟩ := RunPlan.exists_of_ofConfig accepted
    obtain ⟨supported, named⟩ :=
      Suite.backendsFor_of_prepareItem (pools planned hp).1 prepared inPool fits
    have test : x.test = origin.test := by
      obtain ⟨rfl, -⟩ := Suite.prepareItem_eq_ok_iff.1 prepared
      exact follows.test
    obtain ⟨b, found⟩ := Backend.exists_first_supporting supported
    refine ⟨b, ?_, test ▸ found⟩
    have own : x.backendsFor v.device.id = Backend.supporting plan.backends v.device origin.test := by
      rw [← named, WorkItem.backendsFor, follows.backends, WorkItem.backendsFor]
    change (x.backendsFor v.device.id).head?.bind (Backend.find? plan.backends) = some b
    rw [own, Backend.find?_head?_supporting names, found]

end Steps

namespace Sample

/-- A listed device. -/
def listedDevice (serial : String) : Datum := .table [("serial", .text serial)]

/-- A test that must not run on `a`, and two backends, of which only the second runs tests of its
kind. -/
def barred : Config where
  devices := ⟨"builtin.static", none, [("devices", .list [listedDevice "a", listedDevice "b"])]⟩
  suite := .inline [⟨item.test, [], ["a"]⟩]
  backends :=
    [⟨"builtin.dry-run", some "other", [("kinds", .list [.text "instrumented"])]⟩,
      ⟨"builtin.dry-run", some "unit", [("kinds", .list [.text "unit"])]⟩]

/-- What is planned. -/
def planning : Outcome RunError (RunPlan Host) × Host :=
  RunPlan.ofConfig (Registry.builtin 0) barred default default

/-- The workers begin, and `b` takes the test. -/
def barredMoves : List RunMove :=
  [.pool 0, .worker 0 0 .proceed, .worker 0 1 .proceed, .worker 0 1 .claim]

/-- Whether `b` makes an attempt when the plan is carried out, and the first backend that will do is the
second of the two. -/
def attemptsOnSecond : Outcome RunError (RunPlan Host) → Bool
  | .done plan =>
    ((RunState.ofPlans default 0 plan.pools).follow (plan.setting (Registry.builtin 0) .silent)
      barredMoves).any fun run => run.2.pools[0]?.any fun p => p.workers.any fun v =>
        v.device.id.serial == "b" && v.attempting.any fun x =>
          (plan.backends.find? fun b => b.supports v.device x.test).any (·.id == "unit")
  | _ => false

theorem exists_attempt_of_barred : ∃ plan w' planned s v x, planning = (.done plan, w') ∧
    plan.pools[0]? = some planned ∧
    RunState.Reachable (plan.setting (Registry.builtin 0) .silent) (.ofPlans default 0 plan.pools) s ∧
    s.Attempts 0 v x ∧ v.device.id.serial = "b" ∧
    ∀ b, plan.backends.find? (fun b => b.supports v.device x.test) = some b → b.id = "unit" := by
  have passes : attemptsOnSecond planning.1 = true := by decide +kernel
  rcases planned : planning with ⟨_ | _ | _, w'⟩
  · rename_i plan
    rw [planned] at passes
    obtain ⟨_, s, trace, passes⟩ := RunState.exists_trace_of_follow _ _ barredMoves _ passes
    obtain ⟨p, at_0, passes⟩ := (Option.any_eq_true _ _).1 passes
    obtain ⟨v, hv, passes⟩ := List.any_eq_true.1 passes
    obtain ⟨serial, passes⟩ := Bool.and_eq_true_iff.1 passes
    obtain ⟨x, made, passes⟩ := List.any_eq_true.1 passes
    obtain ⟨b, found, second⟩ := (Option.any_eq_true _ _).1 passes
    refine ⟨plan, w', p.plan, s, v, x, rfl, (trace.recorded at_0).1, trace.reachable,
      ⟨p, at_0, hv, made⟩, eq_of_beq serial, fun b' found' => ?_⟩
    obtain rfl := Option.some.inj (found.symm.trans found')
    exact eq_of_beq second
  · rw [planned] at passes
    cases passes
  · rw [planned] at passes
    cases passes

end Sample

open Sample in
/-- The test runs on `b`, on the second backend. -/
theorem eligible_of_barred : ∃ plan w' planned s v x b,
    RunPlan.ofConfig (Registry.builtin 0) barred default (default : Host) = (.done plan, w') ∧
      plan.pools[0]? = some planned ∧
      RunState.Reachable (plan.setting (Registry.builtin 0) .silent) (.ofPlans default 0 plan.pools) s ∧
      s.Attempts 0 v x ∧ v.device.id.serial = "b" ∧ v.device ∈ planned.pool.devices ∧
      AttemptContext.backend? ⟨⟨⟨plan.context, planned.pool⟩, v.device⟩, x⟩ plan.backends = some b ∧
      b.id = "unit" := by
  obtain ⟨plan, w', planned, s, v, x, accepted, at_0, reachable, attempt, serial, second⟩ :=
    exists_attempt_of_barred
  have all := @attempts_eligible Host _ (Registry.builtin 0) .silent 0 barred default default w' plan
    rfl accepted
  obtain ⟨inPool, -, b, found, first⟩ := (all.2 0 planned at_0).2 default 0 s v x reachable attempt
  exact ⟨plan, w', planned, s, v, x, b, accepted, at_0, reachable, attempt, serial, inPool, found,
    second b first⟩

end TestFleet
