import TestFleet.Proofs.Plugin.Registry
import TestFleet.Proofs.Pooling
import TestFleet.Proofs.Rule.Pipeline
import TestFleet.Proofs.Suite
import TestFleet.Run.Plan
/-!
# What is planned

A plan that is done was checked, pooled and prepared (`RunPlan.exists_of_ofConfig`), and once the
devices are known no step of planning changes the world: the suites of all pools are read from the
same files. However a suite was read and reshaped, a planned pool has no two items of the same test
(`distinct_of_ofConfig`).
-/
namespace TestFleet

open WorkItem (Distinct)

variable {W : Type}

namespace Suite

variable {pool : DevicePool} {backends : List (Backend W)} {items ready : List WorkItem}

theorem keys_of_mapM_prepareItem (h : items.mapM (prepareItem pool backends) = .ok ready) :
    ready.map WorkItem.key = items.map WorkItem.key := by
  have prepared := mapM_eq_ok_iff.1 h
  induction prepared with
  | nil => rfl
  | cons first others ih =>
    obtain ⟨rfl, -⟩ := prepareItem_eq_ok_iff.1 first
    rw [List.map_cons, List.map_cons, ih (mapM_eq_ok_iff.2 others)]
    rfl

/-- The items that a pool is given are of different tests. -/
theorem distinct_of_prepare (h : prepare pool items backends = .ok ready) : Distinct ready := by
  unfold Distinct
  rw [keys_of_mapM_prepareItem h]
  exact WorkQueue.distinct_firsts items

end Suite

/-! ## Actions that change nothing -/

namespace Action

variable {ε α β : Type}

/-- The action leaves the world as it is. -/
def IsStill (x : Action W ε α) : Prop := ∀ w, (x w).2 = w

theorem isStill_ofOutcome (o : Outcome ε α) : (ofOutcome o : Action W ε α).IsStill := fun _ => rfl

theorem IsStill.bind {x : Action W ε α} {f : α → Action W ε β} (still : x.IsStill)
    (next : ∀ a, (f a).IsStill) : (x >>= f).IsStill := by
  intro w
  have same := still w
  change (x.andThen f w).2 = w
  unfold andThen
  rcases ended : x w with ⟨_ | _ | _, v⟩
  · obtain rfl : v = w := by rwa [ended] at same
    exact next _ v
  · rwa [ended] at same
  · rwa [ended] at same

/-- What still actions give one after the other, each of them gives where the first began. -/
theorem forall₂_of_collect_still {f : α → Action W ε β} {xs : List α} {bs : List β} {w w' : W}
    (still : ∀ a, (f a).IsStill) (h : collect f xs w = (.done bs, w')) :
    w' = w ∧ List.Forall₂ (fun a b => f a w = (.done b, w)) xs bs := by
  induction xs generalizing bs with
  | nil =>
    cases h
    exact ⟨rfl, .nil⟩
  | cons a rest ih =>
    obtain ⟨b, v, first, h⟩ := andThen_eq_done_iff.1 h
    obtain ⟨bs', v', others, h⟩ := andThen_eq_done_iff.1 h
    cases h
    obtain rfl : v = w := by simpa [first] using still a w
    obtain ⟨same, each⟩ := ih others
    exact ⟨same, .cons first each⟩

end Action

/-- The backends of a configuration that was checked have different labels. -/
theorem Registry.nodup_of_validate {registry : Registry W} {config : Config}
    (valid : registry.validate config = .ok ()) : (config.backends.map PluginEntry.label).Nodup := by
  obtain ⟨-, -, valid⟩ := bind_eq_ok_iff.1 valid
  split at valid
  · cases valid
  · exact (nodup_of_firstRepeat ‹_›).1

namespace RunPlan

open TestFleet.Action (bind_eq_done_iff)

/-! ## Steps of planning -/

theorem configured_eq_done_iff {α : Type} {o : Outcome ConfigError α} {a : α} {w w' : W} :
    configured o w = (.done a, w') ↔ o = .done a ∧ w' = w := by
  unfold configured Action.ofOutcome
  cases o <;> simp [Outcome.mapError, eq_comm]

theorem isStill_configured {α : Type} (o : Outcome ConfigError α) :
    (configured o : Action W RunError α).IsStill := Action.isStill_ofOutcome _

variable [Hosted W] {registry : Registry W} {config : Config} {w w' : W} {plan : RunPlan W}

omit [Hosted W] in
/-- Devices are pooled once the configuration has been checked. -/
theorem exists_of_discover {pools : List DevicePool}
    (h : discover registry config w = (.done pools, w')) :
    registry.validate config = .ok () ∧
      ∃ devices, Pooling.partition config.pooling devices = .ok pools := by
  unfold discover at h
  obtain ⟨_, _, -, h⟩ := bind_eq_done_iff.1 h
  obtain ⟨_, _, valid, h⟩ := bind_eq_done_iff.1 h
  obtain ⟨_, _, -, h⟩ := bind_eq_done_iff.1 h
  obtain ⟨devices, _, -, pooled⟩ := bind_eq_done_iff.1 h
  refine ⟨Outcome.ofExcept_eq_done_iff.1 (configured_eq_done_iff.1 valid).1, devices, ?_⟩
  exact Outcome.ofExcept_eq_done_iff.1 (configured_eq_done_iff.1 pooled).1

section OfPool

variable {context : RunContext} {backends : List (Backend W)} {pool : DevicePool}

theorem isStill_ofPool : (ofPool registry context backends pool).IsStill :=
  (isStill_configured _).bind fun _ =>
    Action.IsStill.bind (x := loadSuite context.config.suite pool) (fun _ => rfl) fun _ =>
      (isStill_configured _).bind fun _ => (isStill_configured _).bind fun _ =>
        (isStill_configured _).bind fun _ => fun _ => rfl

/-- What planning a pool went through: its rules were built, its suite was read, reshaped and prepared,
and the rules of its first device and its first item were built. -/
theorem steps_of_ofPool {planned : PoolPlan}
    (h : ofPool registry context backends pool w = (.done planned, w')) :
    planned.pool = pool ∧ (∃ rules, registry.rulesOfPool ⟨context, pool⟩ = .done rules) ∧
      (∃ loaded rules,
        Suite.load context.config.suite (Hosted.host w).files pool = .ok loaded ∧
        registry.rulesOfSuite ⟨context, pool⟩ = .done rules ∧
        Suite.prepare pool (rules.foldl (fun items rule => rule.apply ⟨context, pool⟩ items) loaded)
          backends = .ok planned.items) ∧
      preflight registry ⟨context, pool⟩ planned.items = .done () := by
  unfold ofPool at h
  dsimp only at h
  obtain ⟨own, _, built, load⟩ := bind_eq_done_iff.1 h
  obtain ⟨loaded, _, read, reshape⟩ := bind_eq_done_iff.1 load
  obtain ⟨rules, _, reshaping, prepare⟩ := bind_eq_done_iff.1 reshape
  obtain ⟨ready, _, prepared, check⟩ := bind_eq_done_iff.1 prepare
  obtain ⟨_, _, checked, last⟩ := bind_eq_done_iff.1 check
  cases last
  obtain ⟨ruled, rfl⟩ := configured_eq_done_iff.1 built
  refine ⟨rfl, ⟨own, ruled⟩, ⟨loaded, rules, ?_, (configured_eq_done_iff.1 reshaping).1,
    Outcome.ofExcept_eq_done_iff.1 (configured_eq_done_iff.1 prepared).1⟩,
    (configured_eq_done_iff.1 checked).1⟩
  exact Outcome.ofExcept_eq_done_iff.1 (Outcome.mapError_eq_done_iff.1 (congrArg Prod.fst read))

/-- A pool is given what is left of its suite, reshaped by the rules on suites and prepared. -/
theorem exists_of_ofPool {planned : PoolPlan}
    (h : ofPool registry context backends pool w = (.done planned, w')) :
    planned.pool = pool ∧ ∃ loaded rules,
      Suite.load context.config.suite (Hosted.host w).files pool = .ok loaded ∧
      registry.rulesOfSuite ⟨context, pool⟩ = .done rules ∧
      Suite.prepare pool (rules.foldl (fun items rule => rule.apply ⟨context, pool⟩ items) loaded)
        backends = .ok planned.items := by
  obtain ⟨same, -, prepared, -⟩ := steps_of_ofPool h
  exact ⟨same, prepared⟩

/-- The planned pools are those that were to be planned, in their order. -/
theorem map_pool_of_planned {pools : List DevicePool} {plans : List PoolPlan}
    (each : List.Forall₂ (fun pool planned =>
      ofPool registry context backends pool w = (.done planned, w)) pools plans) :
    plans.map (·.pool) = pools := by
  induction each with
  | nil => rfl
  | cons first _ ih => rw [List.map_cons, (exists_of_ofPool first).1, ih]

end OfPool

/-! ## Plans -/

/-- What planning a run went through: the configuration was checked, its backends and the rules of the
run were built, its devices were put into pools, and each pool was planned, in the world that planning
leaves behind. -/
theorem steps_of_ofConfig {id : RunId} (h : ofConfig registry config id w = (.done plan, w')) :
    registry.validate config = .ok () ∧ plan.context.config = config ∧
      Outcome.collect registry.backend config.backends = .done plan.backends ∧
      (∃ rules, registry.rulesOfRun plan.context = .done rules) ∧
      (∃ devices, Pooling.partition config.pooling devices = .ok (plan.pools.map (·.pool))) ∧
      ∀ planned ∈ plan.pools,
        ofPool registry plan.context plan.backends planned.pool w' = (.done planned, w') := by
  unfold ofConfig at h
  obtain ⟨pools, _, discovered, build⟩ := bind_eq_done_iff.1 h
  obtain ⟨backends, _, built, look⟩ := bind_eq_done_iff.1 build
  obtain ⟨host, _, seen, rule⟩ := bind_eq_done_iff.1 look
  obtain ⟨rules, _, ruled, plan⟩ := bind_eq_done_iff.1 rule
  obtain ⟨plans, _, collected, last⟩ := bind_eq_done_iff.1 plan
  cases last
  obtain ⟨checked, rfl⟩ := configured_eq_done_iff.1 ruled
  cases seen
  obtain ⟨collectedBackends, rfl⟩ := configured_eq_done_iff.1 built
  obtain ⟨valid, devices, pooled⟩ := exists_of_discover discovered
  obtain ⟨rfl, each⟩ := Action.forall₂_of_collect_still (fun _ => isStill_ofPool) collected
  have own := map_pool_of_planned each
  refine ⟨valid, rfl, collectedBackends, ⟨rules, checked⟩, ⟨devices, own ▸ pooled⟩, ?_⟩
  intro planned hp
  obtain ⟨pool, -, found⟩ := exists_of_forall₂ each hp
  obtain ⟨rfl, -⟩ := exists_of_ofPool found
  exact found

/-- A plan that is done has the backends of the configuration, under different labels, and each of its
pools is of devices of different serials and was planned in the world that planning leaves behind. -/
theorem exists_of_ofConfig {id : RunId} (h : ofConfig registry config id w = (.done plan, w')) :
    plan.context.config = config ∧ (config.backends.map PluginEntry.label).Nodup ∧
      Outcome.collect registry.backend config.backends = .done plan.backends ∧
      ∀ planned ∈ plan.pools, planned.pool.deviceIds.Nodup ∧
        ofPool registry plan.context plan.backends planned.pool w' = (.done planned, w') := by
  obtain ⟨valid, own, backends, -, ⟨devices, pooled⟩, pools⟩ := steps_of_ofConfig h
  refine ⟨own, Registry.nodup_of_validate valid, backends, fun planned hp => ⟨?_, pools planned hp⟩⟩
  exact Pooling.nodup_of_partition pooled (List.mem_map_of_mem hp)

/-- No two devices of all the planned pools have the same serial. -/
theorem nodup_serials_of_ofConfig {id : RunId}
    (h : ofConfig registry config id w = (.done plan, w')) :
    ((plan.pools.flatMap (·.pool.devices)).map (·.id)).Nodup := by
  obtain ⟨-, -, -, -, ⟨devices, pooled⟩, -⟩ := steps_of_ofConfig h
  have apart := Pooling.nodup_serials_of_partition pooled
  rwa [List.flatMap_map] at apart

/-- No planned pool has two items of the same test. -/
theorem distinct_of_ofConfig {id : RunId} (h : ofConfig registry config id w = (.done plan, w')) :
    ∀ pool ∈ plan.pools, Distinct pool.items := by
  intro planned hp
  obtain ⟨-, own⟩ := (exists_of_ofConfig h).2.2.2 planned hp
  obtain ⟨-, loaded, rules, -, -, prepared⟩ := exists_of_ofPool own
  exact Suite.distinct_of_prepare prepared

end RunPlan

end TestFleet
