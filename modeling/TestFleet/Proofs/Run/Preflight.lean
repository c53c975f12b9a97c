import TestFleet.Proofs.Rule.Status
import TestFleet.Proofs.Run.Cause
import TestFleet.Proofs.Run.Course
import TestFleet.Proofs.Run.Exclusive
/-!
# Planning fails fast

Planning builds the rules of every pool, but those of devices and of attempts for one device and one
item of each pool only, and none for attempts where a pool has no items. That is enough where it does
not depend on the context whether rules can be built: a planned pool has a device, and an attempt is
made in it only if it has an item (`Setting.Serves`). So while the plan is carried out nothing is refused
or retired, and no attempt ends, because rules cannot be built (`PoolState.Unhindered`).
-/
namespace TestFleet

open Registry (JudgesAlike)

variable {W : Type}

namespace Setting

/-- The rules of a planned pool can be built, those of its devices, and those of the attempts that can be
made there. -/
structure Serves (setting : Setting W) (planned : PoolPlan) : Prop where
  pool : (setting.registry.rulesOfPool ⟨setting.context, planned.pool⟩).IsDone
  device : ∀ device,
    (setting.registry.rulesOfDevice ⟨⟨setting.context, planned.pool⟩, device⟩).IsDone
  attempt : planned.items ≠ [] → ∀ device item,
    (setting.registry.rulesOfAttempt ⟨⟨⟨setting.context, planned.pool⟩, device⟩, item⟩).IsDone

end Setting

/-! ## What planning has built -/

namespace RunPlan

/-- A pool that passes has had the rules of its first device built, and those of its first item. -/
theorem isDone_of_preflight {registry : Registry W} {ctx : PoolContext} {items : List WorkItem}
    (manned : ctx.pool.devices ≠ []) (passed : preflight registry ctx items = .done ()) :
    ∃ device, (registry.rulesOfDevice ⟨ctx, device⟩).IsDone ∧
      (items ≠ [] → ∃ item, (registry.rulesOfAttempt ⟨⟨ctx, device⟩, item⟩).IsDone) := by
  unfold preflight at passed
  split at passed
  · contradiction
  · rename_i device _ _
    obtain ⟨rules, built, passed⟩ := Outcome.andThen_eq_done_iff.1 passed
    refine ⟨device, ⟨rules, built⟩, fun full => ?_⟩
    cases items with
    | nil => contradiction
    | cons item rest =>
      obtain ⟨rules, built, -⟩ := Outcome.map_eq_done_iff.1 passed
      exact ⟨item, rules, built⟩

variable [Hosted W] {registry : Registry W} {config : Config} {id : RunId} {w w' : W}
  {plan : RunPlan W} {planned : PoolPlan}

/-- What is built for one context can be built for all that the pool comes to. -/
theorem serves_of_ofConfig (reporter : Reporter W) (devices : JudgesAlike registry.deviceRules)
    (attempts : JudgesAlike registry.attemptRules)
    (accepted : ofConfig registry config id w = (.done plan, w')) (hp : planned ∈ plan.pools) :
    (plan.setting registry reporter).Serves planned := by
  obtain ⟨-, -, -, -, ⟨_, pooled⟩, pools⟩ := steps_of_ofConfig accepted
  obtain ⟨-, pool, -, passed⟩ := steps_of_ofPool (pools planned hp)
  have manned := Pooling.ne_nil_of_partition pooled (List.mem_map_of_mem hp)
  obtain ⟨device, built, builtAttempt⟩ := isDone_of_preflight manned passed
  refine ⟨pool, fun device' => Registry.isDone_buildAll devices built, fun full device' item' => ?_⟩
  obtain ⟨item, built⟩ := builtAttempt full
  exact Registry.isDone_buildAll attempts built

end RunPlan

/-! ## Workers -/

/-- The rules of devices leave a summary as it is. -/
def Registry.KeepsSummaries (registry : Registry W) : Prop :=
  ∀ ctx rules, registry.rulesOfDevice ctx = .done rules → ∀ rule ∈ rules, ∀ P, rule.Keeps ctx P

/-- What a device can be retired for if its rules are built: one of them fails before it, or its worker
panics. -/
inductive Retirement : String → Prop where
  | refused (rule : String) (reason : Reason) :
    Retirement (PipelineError.before .device rule reason).message
  | panicked (m : String) : Retirement ("worker panicked: " ++ m)

/-- What is told of the device is nothing but a retirement of that kind, or that it is not retired. -/
def DeviceSummary.IsServed (summary : DeviceSummary) : Prop :=
  ∀ m, summary.retired = some m → Retirement m

namespace Worker

theorem isServed_crashed (w : Worker W) (m : String) : (w.crashed m).IsServed := by
  intro m' retired
  cases retired
  exact .panicked m

/-- The worker is retired only because of its rules or a panic, and so says the summary that it leaves;
and its rules leave a summary as it is. -/
structure Served (pool : PoolContext) (w : Worker W) : Prop where
  own : w.summary.IsServed
  left : ∀ summary, w.summary? = some summary → summary.IsServed
  faithful : ∀ rule ∈ w.rules, ∀ P, rule.Keeps ⟨pool, w.device⟩ P

theorem served_ofDevice (pool : PoolContext) (device : Device) :
    (ofDevice device : Worker W).Served pool := ⟨nofun, nofun, nofun⟩

variable {setting : Setting W} {pool : PoolContext} {w w' : Worker W}

/-- A worker that is as it was, but leaves a summary or none. -/
theorem Served.at_ (served : w.Served pool) {phase : WorkerPhase}
    (left : ∀ summary, (w.at_ phase).summary? = some summary → summary.IsServed) :
    (w.at_ phase).Served pool :=
  ⟨served.own, left, served.faithful⟩

theorem Served.stopped (served : w.Served pool) {summary : DeviceSummary} (told : summary.IsServed) :
    (w.at_ (.stopped (.ok summary))).Served pool :=
  served.at_ fun _ left => Option.some.inj left ▸ told

theorem served_start (built : (setting.registry.rulesOfDevice ⟨pool, w.device⟩).IsDone)
    (faithful : setting.registry.KeepsSummaries)
    (served : w.Served pool) (world : W) :
    (w.start setting ⟨pool, w.device⟩ world).1.Served pool := by
  obtain ⟨rules, built⟩ := built
  have ruled : ({ w with rules } : Worker W).Served pool :=
    ⟨served.own, served.left, faithful _ rules built⟩
  unfold start
  rw [built]
  dsimp only
  split
  · rename_i entered world' enter
    split
    · exact ⟨ruled.own, nofun, ruled.faithful⟩
    · rename_i e failed
      obtain ⟨rule, reason, rfl⟩ := Pipeline.exists_before_of_enter enter failed
      refine ⟨fun m retired => ?_, nofun, ruled.faithful⟩
      cases retired
      exact .refused rule reason
  · exact ruled.at_ nofun
  · exact ruled.stopped (isServed_crashed _ _)

theorem served_leave (served : w.Served pool) (world : W) :
    (w.leave ⟨pool, w.device⟩ world).1.Served pool := by
  unfold leave
  split
  · rename_i summary world' unwound
    refine served.stopped (Pipeline.keeps_unwind (P := DeviceSummary.IsServed) ?_ served.own unwound)
    exact fun rule hr => served.faithful rule (List.mem_of_mem_take hr) _
  · exact served.at_ nofun
  · exact served.stopped (isServed_crashed _ _)

theorem served_abandon (served : w.Served pool) (e : PipelineError) (world : W) :
    (w.abandon ⟨pool, w.device⟩ e world).1.Served pool := by
  unfold abandon
  split
  · exact served.stopped (isServed_crashed _ _)
  · exact served.at_ nofun

theorem Change.served [Hosted W] {s s' : Shared W} (h : Change setting pool w s w' s')
    (built : (setting.registry.rulesOfDevice ⟨pool, w.device⟩).IsDone)
    (faithful : setting.registry.KeepsSummaries)
    (served : w.Served pool) : w'.Served pool := by
  cases h with
  | start => exact served_start built faithful served _
  | leave => exact served_leave served _
  | abandon => exact served_abandon served _ _
  | expire | crash => exact served.stopped (isServed_crashed _ _)
  | release | violate => exact ⟨served.own, nofun, served.faithful⟩
  | claim | heed | quit | work | cancel => exact served.at_ nofun

end Worker

/-! ## Pools -/

namespace PoolState

/-- The pool can be served, and has not failed, nor have its devices been retired, because rules could not
be built. -/
structure Unhindered (setting : Setting W) (p : PoolState W) : Prop where
  serves : setting.Serves p.plan
  error : ∀ e, p.error? ≠ some (.config e)
  crew : ∀ v ∈ p.workers, v.Served ⟨setting.context, p.plan.pool⟩
  told : ∀ summary ∈ p.devices, summary.IsServed

variable {setting : Setting W} {p p' : PoolState W}

theorem unhindered_ofPlan {planned : PoolPlan} (serves : setting.Serves planned) :
    (ofPlan planned).Unhindered setting where
  serves := serves
  error := nofun
  crew v hv := by
    obtain ⟨device, -, rfl⟩ := List.mem_map.1 hv
    exact Worker.served_ofDevice _ device
  told := nofun

/-- A pool whose rules can be built does not fail because they cannot. -/
theorem error?_start_ne {ctx : PoolContext} (built : (setting.registry.rulesOfPool ctx).IsDone)
    (world : W) (e : ConfigError) : (p.start setting ctx world).1.error? ≠ some (.config e) := by
  obtain ⟨rules, built⟩ := built
  unfold PoolState.start
  rw [built]
  dsimp only
  split
  · split <;> nofun
  · nofun
  · nofun

variable [Hosted W] {c c' : Common W} {m : PoolMove}

/-- A pool that goes on does not fail because rules cannot be built. -/
theorem Change.error?_ne (h : Change setting p c m p' c') (known : p.Unhindered setting)
    (e : ConfigError) : p'.error? ≠ some (.config e) := by
  have error := known.error e
  cases h with
  | start => exact error?_start_ne known.serves.pool _ e
  | refuse phase => simpa only [error?, phase, at_] using error
  | fail phase gone failed =>
    rcases failure?_eq_some_iff.1 failed with ⟨fatal, -, rfl⟩ | ⟨-, -, rfl⟩ <;> simp [error?, at_]
  | @abort e' r phase =>
    rcases abort_eq ⟨setting.context, p.plan.pool⟩ e' r p c.world with eq | ⟨m, eq⟩ <;> rw [eq]
    · simpa only [error?, phase, at_] using error
    · simp [error?, at_]
  | @account item left unreachable phase =>
    obtain ⟨r, collector, _, -, ⟨m, -, eq⟩ | ⟨count, eq⟩⟩ :=
      account_eq setting item left unreachable p c.world <;> simp [eq, error?, at_]
  | close =>
    unfold PoolState.close
    split <;> simp [error?, at_]
  | drain | conclude => simp [error?, at_]
  | worker phase => simp [error?, withWorker, phase]
  | join phase | joinFailed phase => simp [error?, phase]

/-- What a pool notes of its devices was noted before, or a worker has left it. -/
theorem Change.told (h : Change setting p c m p' c') {summary : DeviceSummary}
    (noted : summary ∈ p'.devices) :
    summary ∈ p.devices ∨ ∃ w ∈ p.workers, w.summary? = some summary := by
  cases m with
  | own => exact .inl (h.goesOn.devices ▸ noted)
  | worker j =>
    cases h
    exact .inl noted
  | join j =>
    cases h with
    | @join _ w _ phase at_j stopped =>
      refine (List.mem_append.1 noted).imp_right fun own => ?_
      obtain rfl := List.mem_singleton.1 own
      exact ⟨w, List.mem_of_getElem? at_j, by simp only [Worker.summary?, stopped]⟩
    | joinFailed => exact .inl noted

/-- **Nothing fails because rules cannot be built, where they can.** -/
theorem Change.unhindered (h : Change setting p c m p' c')
    (faithful : setting.registry.KeepsSummaries)
    (known : p.Unhindered setting) : p'.Unhindered setting where
  serves := h.plan ▸ known.serves
  error := h.error?_ne known
  crew v hv := by
    rw [h.plan]
    rcases h.own_or_shifts with rfl | ⟨j, w, w', -, shifts⟩
    · exact known.crew v (h.goesOn.workers ▸ hv)
    · rcases shifts.eq_or_mem hv with rfl | other
      · have served := known.crew w shifts.mem
        rcases shifts.cause with change | notes
        · exact change.served (known.serves.device _) faithful served
        · rw [notes.gone]
          exact served.at_ nofun
      · exact known.crew v other
  told summary noted := by
    rcases h.told noted with earlier | ⟨w, hw, left⟩
    · exact known.told summary earlier
    · exact (known.crew w hw).left summary left

end PoolState

/-! ## Runs -/

/-- A built-in rule of devices leaves a summary as it is. -/
theorem Registry.keepsSummaries_builtin [Hosted W] (seed : UInt64) :
    (Registry.builtin seed : Registry W).KeepsSummaries := by
  intro ctx rules built rule hr P
  obtain ⟨factory, known, e, part, made, hr⟩ := Registry.exists_of_mem_buildAll built hr
  obtain rfl := List.mem_singleton.1 known
  exact keeps_hookFactory made P rule hr

namespace RunState

variable [Hosted W] {setting : Setting W} {world : W} {quota i : Nat} {plans : List PoolPlan}
  {s : RunState W} {p : PoolState W}

/-- **In no state of a run is anything hindered because rules cannot be built**, where they can for every
pool. -/
theorem Reachable.unhindered (reachable : Reachable setting (ofPlans world quota plans) s)
    (serves : ∀ planned ∈ plans, setting.Serves planned)
    (faithful : setting.registry.KeepsSummaries) (at_i : s.pools[i]? = some p) :
    plans[i]? = some p.plan ∧ p.Unhindered setting := by
  obtain ⟨past, trace⟩ := reachable.trace
  exact trace.induct_ofPlans (fun _ p _ => p.Unhindered setting)
    (fun planned known => PoolState.unhindered_ofPlan (serves planned (List.mem_of_getElem? known)))
    (fun _ _ known => known)
    (fun _ _ _ _ _ _ known change => change.unhindered faithful known) at_i

/-- Where rules can be built no pool ends because of the configuration. -/
theorem Reachable.config_not_mem (reachable : Reachable setting (ofPlans world quota plans) s)
    (serves : ∀ planned ∈ plans, setting.Serves planned)
    (faithful : setting.registry.KeepsSummaries) (e : ConfigError) :
    .error (.config e) ∉ s.outcomes := by
  intro failed
  obtain ⟨p, hp, ended⟩ := reachable.error_mem_iff.1 failed
  obtain ⟨i, at_i⟩ := List.getElem?_of_mem hp
  refine (reachable.unhindered serves faithful at_i).2.error e ?_
  simp only [PoolState.error?, ended]

end RunState

/-! ## Executions -/

namespace RunPlan

variable [Hosted W] {plan : RunPlan W} {course : RunState W → RunState W} {registry : Registry W}
  {reporter : Reporter W} {rules : List (Rule W RunContext RunResult)} {depth : Nat} {r : RunResult}
  {w w' : W} {e : ConfigError}

omit [Hosted W] in
theorem tell_ne_failed {x : Action W Empty Unit} {e : RunError} : tell x w ≠ (.failed e, w') :=
  fun failed => (mapError_eq_failed_iff.1 failed).choose.elim

omit [Hosted W] in
/-- An execution that ends with the errors of its pools fails because of the configuration only if one
of them does. -/
theorem finish_ne_config {o : Option RunError} (own : o ≠ some (.config e)) :
    plan.finish reporter rules depth r o w ≠ (.failed (.config e), w') := by
  intro failed
  cases o with
  | some found =>
    rcases Action.andThen_eq_failed_iff.1 failed with failed | ⟨_, v, -, last⟩
    · unfold Pipeline.release at failed
      split at failed <;> cases failed
    · cases last
      exact own rfl
  | none =>
    rcases Action.andThen_eq_failed_iff.1 failed with failed | ⟨r', v, -, last⟩
    · obtain ⟨e', -, same⟩ := mapError_eq_failed_iff.1 failed
      cases same
    · rcases Action.andThen_eq_failed_iff.1 last with failed | ⟨_, _, -, given⟩
      · exact tell_ne_failed failed
      · cases given

/-- An execution whose rules can be built fails because of the configuration only if a pool does. -/
theorem executeBy_ne_config (built : (registry.rulesOfRun plan.context).IsDone)
    (own : ∀ world, .error (.config e) ∉
      (course (.ofPlans world (plan.setting registry reporter).retry.total plan.pools)).outcomes) :
    plan.executeBy course registry reporter w ≠ (.failed (.config e), w') := by
  intro failed
  obtain ⟨rules, built⟩ := built
  rcases enter : Pipeline.enter ⟨.run, rules⟩ plan.context w with ⟨entered | e' | m, v⟩
  · rw [executeBy_eq plan course reporter built enter] at failed
    split at failed
    · refine finish_ne_config ?_ failed
      nofun
    · rcases Action.andThen_eq_failed_iff.1 failed with failed | ⟨_, u, -, failed⟩
      · exact tell_ne_failed failed
      · exact finish_ne_config (fun fails => own u (failure?_eq_some fails).1) failed
  · exact Pipeline.enter_ne_failed enter
  · simp only [executeBy, bind, Action.andThen, configured, Action.ofOutcome, Outcome.mapError, built,
      Hosted.clock, Action.mapError, enter] at failed
    cases failed

end RunPlan

/-- **Planning fails fast.** Where a plan is accepted with the built-in components, all rules can be built
while it is carried out, whoever moves when: those of the run, those of every pool and of every device,
and those of every attempt, retries included, so that no attempt is given an error to set out with. No
pool fails because of the configuration, nor does the execution, and a device is retired only for what
its rules do, or for a panic. -/
theorem planning_fails_fast [Hosted W] {reporter : Reporter W} {seed : UInt64} {config : Config}
    {id : RunId} {w w' : W} {plan : RunPlan W}
    (accepted : RunPlan.ofConfig (Registry.builtin seed) config id w = (.done plan, w')) :
    ((Registry.builtin (W := W) seed).rulesOfRun plan.context).IsDone ∧
    (∀ (world : W) (quota : Nat) (s : RunState W),
      RunState.Reachable (plan.setting (.builtin seed) reporter) (.ofPlans world quota plan.pools) s →
      ∀ p ∈ s.pools,
        ((Registry.builtin (W := W) seed).rulesOfPool ⟨plan.context, p.plan.pool⟩).IsDone ∧
        (∀ e, p.error? ≠ some (.config e)) ∧
        (∀ summary ∈ p.devices, summary.IsServed) ∧
        ∀ v ∈ p.workers,
          ((Registry.builtin (W := W) seed).rulesOfDevice ⟨⟨plan.context, p.plan.pool⟩, v.device⟩).IsDone ∧
          v.summary.IsServed ∧
          ∀ x ∈ v.attempting, ∃ rules,
            (Registry.builtin (W := W) seed).rulesOfAttempt ⟨⟨⟨plan.context, p.plan.pool⟩, v.device⟩, x⟩ =
              .done rules ∧
            ∀ now : W, AttemptContext.pipeline ⟨⟨⟨plan.context, p.plan.pool⟩, v.device⟩, x⟩
              (.builtin seed) now =
                (.done (⟨.attempt, timingRule (Hosted.now now) :: rules⟩, none), now)) ∧
    ∀ course, RunPlan.IsCourse (plan.setting (.builtin seed) reporter) plan.pools course →
      ∀ v v' e, plan.executeBy course (.builtin seed) reporter v ≠ (.failed (.config e), v') := by
  have serves : ∀ planned ∈ plan.pools, (plan.setting (.builtin seed) reporter).Serves planned :=
    fun planned hp => RunPlan.serves_of_ofConfig reporter (Registry.judgesAlike_builtin_deviceRules seed)
      (Registry.judgesAlike_builtin_attemptRules seed) accepted hp
  have faithful := Registry.keepsSummaries_builtin (W := W) seed
  obtain ⟨-, -, -, ofRun, -⟩ := RunPlan.steps_of_ofConfig accepted
  refine ⟨ofRun, fun world quota s reachable p hp => ?_, fun course leads v v' e => ?_⟩
  · obtain ⟨i, at_i⟩ := List.getElem?_of_mem hp
    obtain ⟨planned, known⟩ := reachable.unhindered serves faithful at_i
    refine ⟨known.serves.pool, known.error, known.told, fun v hv => ?_⟩
    refine ⟨known.serves.device v.device, (known.crew v hv).own, fun x made => ?_⟩
    obtain ⟨⟨first, hfirst, -⟩, -⟩ := reachable.exists_planned planned
      (RunPlan.distinct_of_ofConfig accepted p.plan (List.mem_of_getElem? planned)) ⟨p, at_i, hv, made⟩
    obtain ⟨rules, built⟩ := known.serves.attempt (List.ne_nil_of_mem hfirst) v.device x
    refine ⟨rules, built, fun now => ?_⟩
    have built : (Registry.builtin (W := W) seed).rulesOfAttempt
      ⟨⟨⟨plan.context, p.plan.pool⟩, v.device⟩, x⟩ = .done rules := built
    simp only [AttemptContext.pipeline, built]
  · exact RunPlan.executeBy_ne_config ofRun fun world =>
      (leads world).1.config_not_mem serves faithful e

namespace Sample

/-- A hook that does something only when its scope is left. -/
def tidying : PluginEntry := ⟨"builtin.hook", none, [("after", .list [.text "true"])]⟩

/-- The dry run in which all tests fail, with rules in every scope. -/
def ruledConfig : Config where
  devices := dryConfig.devices
  suite := dryConfig.suite
  backends := dryConfig.backends
  rules :=
    { run := [tidying], pool := [tidying], device := [tidying]
      testCaseRun := [⟨"builtin.tag-retry", none, []⟩] }

/-- Once the test has failed on `a` the next attempt is offered, and `b` takes it. -/
def retaking : List RunMove := failingOnce ++ [.worker 0 0 .proceed, .worker 0 1 .claim]

/-- Whether `b` is about to make the second attempt. -/
def retriesOnB (s : RunState Host) : Bool :=
  s.pools[0]?.any fun p => p.workers.any fun v =>
    v.device.id.serial == "b" && v.attempting.any fun x => x.failures == 1

theorem exists_retry_of_ruled : ∃ plan w' s p v x,
    RunPlan.ofConfig (Registry.builtin 0) ruledConfig default (default : Host) = (.done plan, w') ∧
    RunState.Reachable (plan.setting (Registry.builtin 0) .silent) (.ofPlans default 10 plan.pools) s ∧
    p ∈ s.pools ∧ v ∈ p.workers ∧ v.device.id.serial = "b" ∧ x ∈ v.attempting ∧ x.failures = 1 := by
  have played : plays ruledConfig 10 retaking retriesOnB = true := by decide +kernel
  obtain ⟨plan, w', s, accepted, reachable, passes⟩ := exists_of_plays played
  obtain ⟨p, at_0, passes⟩ := (Option.any_eq_true _ _).1 passes
  obtain ⟨v, hv, passes⟩ := List.any_eq_true.1 passes
  obtain ⟨serial, passes⟩ := Bool.and_eq_true_iff.1 passes
  obtain ⟨x, made, second⟩ := List.any_eq_true.1 passes
  exact ⟨plan, w', s, p, v, x, accepted, reachable, List.mem_of_getElem? at_0, hv, eq_of_beq serial,
    made, eq_of_beq second⟩

end Sample

open Sample in
/-- The rules of the retry on `b` can be built, and those of `b`, and the execution does not fail for want
of rules. -/
theorem served_of_ruled : ∃ plan w' s p v x rules,
    RunPlan.ofConfig (Registry.builtin 0) ruledConfig default (default : Host) = (.done plan, w') ∧
      RunState.Reachable (plan.setting (Registry.builtin 0) .silent) (.ofPlans default 10 plan.pools) s ∧
      p ∈ s.pools ∧ v ∈ p.workers ∧ v.device.id.serial = "b" ∧ x ∈ v.attempting ∧ x.failures = 1 ∧
      (Registry.builtin (W := Host) 0).rulesOfAttempt
        ⟨⟨⟨plan.context, p.plan.pool⟩, v.device⟩, x⟩ = .done rules ∧
      ((Registry.builtin (W := Host) 0).rulesOfDevice ⟨⟨plan.context, p.plan.pool⟩, v.device⟩).IsDone ∧
      ∀ e v', plan.execute (.builtin 0) .silent default ≠ (.failed (.config e), v') := by
  obtain ⟨plan, w', s, p, v, x, accepted, reachable, hp, hv, serial, made, second⟩ :=
    exists_retry_of_ruled
  obtain ⟨-, inRun, executed⟩ := @planning_fails_fast Host _ .silent 0 ruledConfig default default w' plan
    accepted
  obtain ⟨-, -, -, crew⟩ := inRun default 10 s reachable p hp
  obtain ⟨device, -, attempts⟩ := crew v hv
  obtain ⟨rules, built, -⟩ := attempts x made
  exact ⟨plan, w', s, p, v, x, rules, accepted, reachable, hp, hv, serial, made, second, built, device,
    fun e v' => executed _ (RunPlan.isCourse_play _ _) default v' e⟩

end TestFleet
