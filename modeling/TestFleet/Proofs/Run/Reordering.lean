import TestFleet.Proofs.Plugin.Builtin
import TestFleet.Proofs.Run.Plan
import TestFleet.Proofs.Suite.Preparation
/-!
# Plans of a shuffled suite

A shuffle stands among the rules on suites, so the suite is put into its order before repeated tests
are dropped. Whatever the order, the same tests are planned. They are planned in the same way where
items of the same test are the same item (`WorkItem.Agree`): then planning goes well with the
shuffle just if it does without, and the shuffle changes nothing but the order
(`RunPlan.shuffle_keeps_plan`). Where they differ the order decides which of them is planned.
-/
namespace TestFleet

open Registry (JudgesAlike)

variable {W : Type}

/-! ## Reshaping -/

namespace WorkItem

/-- Items of the same test are the same item. -/
def Agree (items : List WorkItem) : Prop := ∀ x ∈ items, ∀ y ∈ items, x.key = y.key → x = y

instance (items : List WorkItem) : Decidable (Agree items) :=
  inferInstanceAs (Decidable (∀ x ∈ items, ∀ y ∈ items, _))

theorem Agree.perm {xs ys : List WorkItem} (agree : Agree ys) (perm : xs.Perm ys) : Agree xs :=
  fun x hx y hy => agree x (perm.subset hx) y (perm.subset hy)

end WorkItem

open WorkItem (Agree)

namespace SuiteRule

variable {rules : List SuiteRule} {ctx ctx' : PoolContext} {xs ys : List WorkItem}

/-- What rules on suites leave of items. -/
def reshape (ctx : PoolContext) (rules : List SuiteRule) (items : List WorkItem) : List WorkItem :=
  rules.foldl (fun items rule => rule.apply ctx items) items

theorem reshape_append (early late : List SuiteRule) :
    reshape ctx (early ++ late) xs = reshape ctx late (reshape ctx early xs) :=
  List.foldl_append

/-- Filters leave the same items of lists that differ in their order only. -/
theorem perm_reshape_filters (filters : ∀ rule ∈ rules, ∃ f : Filter, rule = f.rule)
    (perm : xs.Perm ys) : (reshape ctx rules xs).Perm (reshape ctx' rules ys) := by
  induction rules generalizing xs ys with
  | nil => exact perm
  | cons rule rest ih =>
    obtain ⟨⟨f, rfl⟩, others⟩ := List.forall_mem_cons.1 filters
    exact ih others (perm.filter _)

theorem perm_reshape_orders
    (orders : ∀ rule ∈ rules, ∀ items, (rule.apply ctx items).Perm items) :
    (reshape ctx rules xs).Perm xs := by
  induction rules generalizing xs with
  | nil => exact .refl xs
  | cons rule rest ih =>
    obtain ⟨order, others⟩ := List.forall_mem_cons.1 orders
    exact (ih others).trans (order xs)

end SuiteRule

/-! ## Preparation -/

namespace Suite

variable {pool : DevicePool} {backends : List (Backend W)} {xs ys ready ready' : List WorkItem}

theorem perm_firsts (agree : Agree ys) (perm : xs.Perm ys) :
    (WorkQueue.firsts xs).Perm (WorkQueue.firsts ys) := by
  -- Where items of a test agree, that of them which is kept is any of them.
  have kept {items : List WorkItem} (agree : Agree items) (x : WorkItem) :
      x ∈ WorkQueue.firsts items ↔ x ∈ items := by
    constructor
    · exact fun hx => (WorkQueue.firsts_sublist items).subset hx
    · intro hx
      rw [WorkQueue.firsts_eq]
      obtain ⟨y, hy, same⟩ := List.mem_map.1
        (mem_map_firstOfEach.2 (List.mem_map_of_mem (f := WorkItem.key) hx))
      rwa [agree x hx y ((firstOfEach_sublist _ items).subset hy) same.symm]
  have apart (items : List WorkItem) : (WorkQueue.firsts items).Nodup :=
    (WorkQueue.distinct_firsts items).of_map
  refine (List.perm_ext_iff_of_nodup (apart xs) (apart ys)).2 fun x => ?_
  rw [kept (agree.perm perm), kept agree, perm.mem_iff]

/-- Preparing items that differ in their order gives items of the same tests. -/
theorem perm_keys_of_prepare (perm : xs.Perm ys) (h : prepare pool xs backends = .ok ready)
    (h' : prepare pool ys backends = .ok ready') :
    (ready.map WorkItem.key).Perm (ready'.map WorkItem.key) := by
  have keys := keys_of_mapM_prepareItem h
  have keys' := keys_of_mapM_prepareItem h'
  have apart : (ready.map WorkItem.key).Nodup := distinct_of_prepare h
  have apart' : (ready'.map WorkItem.key).Nodup := distinct_of_prepare h'
  refine (List.perm_ext_iff_of_nodup apart apart').2 fun k => ?_
  rw [keys, keys', WorkQueue.firsts_eq, WorkQueue.firsts_eq, mem_map_firstOfEach,
    mem_map_firstOfEach, (perm.map _).mem_iff]

theorem eq_of_mapM_prepareItem (h : xs.mapM (prepareItem pool backends) = .ok ready) :
    ready = xs.map (readied pool backends) := by
  have pairs := mapM_eq_ok_iff.1 h
  clear h
  induction pairs with
  | nil => rfl
  | cons first _ ih =>
    obtain ⟨rfl, -⟩ := prepareItem_eq_ok_iff.1 first
    rw [List.map_cons, ← ih]
    rfl

/-- Items of which those of one test agree are prepared in any order. -/
theorem exists_perm_of_prepare (agree : Agree ys) (perm : xs.Perm ys)
    (h : prepare pool xs backends = .ok ready) :
    ∃ ready', prepare pool ys backends = .ok ready' ∧ ready.Perm ready' := by
  have kept := perm_firsts agree perm
  have each := exists_mapM_eq_ok_iff.1 ⟨ready, h⟩
  obtain ⟨ready', h'⟩ : ∃ ready', prepare pool ys backends = .ok ready' :=
    exists_mapM_eq_ok_iff.2 fun y hy => each y (kept.mem_iff.2 hy)
  refine ⟨ready', h', ?_⟩
  rw [eq_of_mapM_prepareItem h, eq_of_mapM_prepareItem h']
  exact kept.map _

end Suite

/-! ## Rules on suites -/

namespace Registry

/-- What a registry has whose rules on suites filter and shuffle: the built-in filter, and a shuffle
that puts items into some order. Whether other rules can be built depends on their entries alone. -/
structure Arranges (registry : Registry W) : Prop where
  filter : registry.suiteRules.lookup "builtin.filter" =
    some fun _ e => .ofExcept ((Filter.ofEntry e).map fun f => [f.rule])
  shuffle : ∃ make, registry.suiteRules.lookup "builtin.shuffle" = some make ∧
    ∀ ctx e rules, make ctx e = .done rules →
      ∀ rule ∈ rules, ∀ ctx items, (rule.apply ctx items).Perm items
  pools : JudgesAlike registry.poolRules
  devices : JudgesAlike registry.deviceRules
  attempts : JudgesAlike registry.attemptRules

variable {registry : Registry W} {ctx ctx' : PoolContext} {e : PluginEntry} {es : List PluginEntry}

theorem build_filter (arranges : registry.Arranges) (kind : e.kind = "builtin.filter") :
    build .testCaseRule registry.suiteRules ctx e =
      (Outcome.ofExcept ((Filter.ofEntry e).map fun f => [f.rule])).mapError
        (.plugin .testCaseRule e.label) := by
  have identifier : Plugin.isIdentifier "builtin.filter" = true := by decide
  unfold build
  rw [kind, arranges.filter, identifier]
  rfl

/-- The rules of filters are the same in every context. -/
theorem buildAll_filters (arranges : registry.Arranges)
    (kind : ∀ e ∈ es, e.kind = "builtin.filter") :
    buildAll .testCaseRule registry.suiteRules ctx es =
      buildAll .testCaseRule registry.suiteRules ctx' es := by
  unfold buildAll
  congr 1
  refine Outcome.collect_congr fun e he => ?_
  rw [build_filter arranges (kind e he), build_filter arranges (kind e he)]

theorem filters_of_buildAll (arranges : registry.Arranges)
    (kind : ∀ e ∈ es, e.kind = "builtin.filter") {rules : List SuiteRule}
    (built : buildAll .testCaseRule registry.suiteRules ctx es = .done rules) :
    ∀ rule ∈ rules, ∃ f : Filter, rule = f.rule := by
  intro rule hr
  obtain ⟨parts, collected, rfl⟩ := Outcome.map_eq_done_iff.1 built
  obtain ⟨part, hpart, hr⟩ := List.mem_flatten.1 hr
  obtain ⟨e, he, own⟩ := Outcome.exists_of_mem_collect collected hpart
  rw [build_filter arranges (kind e he), Outcome.mapError_eq_done_iff,
    Outcome.ofExcept_eq_done_iff, map_eq_ok_iff] at own
  obtain ⟨f, -, rfl⟩ := own
  exact ⟨f, List.mem_singleton.1 hr⟩

theorem orders_of_build (arranges : registry.Arranges) (kind : e.kind = "builtin.shuffle")
    {rules : List SuiteRule} (built : build .testCaseRule registry.suiteRules ctx e = .done rules) :
    ∀ rule ∈ rules, ∀ ctx items, (rule.apply ctx items).Perm items := by
  obtain ⟨make, found, orders⟩ := arranges.shuffle
  obtain ⟨-, make', found', made⟩ := build_eq_done_iff.1 built
  rw [kind, found] at found'
  cases found'
  exact orders ctx e rules made

/-- A shuffle among filters changes nothing but the order of what they leave. -/
theorem perm_reshape (arranges : registry.Arranges) {before after : List PluginEntry}
    (filters : ∀ e ∈ before ++ after, e.kind = "builtin.filter") (kind : e.kind = "builtin.shuffle")
    {rules rules' : List SuiteRule}
    (shuffled : buildAll .testCaseRule registry.suiteRules ctx (before ++ e :: after) = .done rules)
    (plain : buildAll .testCaseRule registry.suiteRules ctx' (before ++ after) = .done rules')
    (items : List WorkItem) :
    (SuiteRule.reshape ctx rules items).Perm (SuiteRule.reshape ctx' rules' items) := by
  obtain ⟨filtersBefore, filtersAfter⟩ := List.forall_mem_append.1 filters
  obtain ⟨early, rest, builtBefore, others, rfl⟩ := buildAll_append_eq_done_iff.1 shuffled
  obtain ⟨drawn, late, built, builtAfter, rfl⟩ := buildAll_append_eq_done_iff.1
    (List.singleton_append ▸ others : buildAll _ _ ctx ([e] ++ after) = .done rest)
  rw [buildAll_filters arranges filtersBefore] at builtBefore
  rw [buildAll_filters arranges filtersAfter] at builtAfter
  obtain ⟨early', late', builtBefore', builtAfter', rfl⟩ := buildAll_append_eq_done_iff.1 plain
  cases builtBefore.symm.trans builtBefore'
  cases builtAfter.symm.trans builtAfter'
  rw [buildAll_singleton] at built
  have orders := orders_of_build arranges kind built
  have first := filters_of_buildAll arranges filtersBefore builtBefore
  have last := filters_of_buildAll arranges filtersAfter builtAfter
  simp only [SuiteRule.reshape_append]
  refine SuiteRule.perm_reshape_filters last ?_
  refine (SuiteRule.perm_reshape_orders fun rule hr => orders rule hr ctx).trans ?_
  exact SuiteRule.perm_reshape_filters first (.refl items)

/-- Where the shuffle can be built, the rules can be built with it if they can without. -/
theorem isDone_buildAll_iff (arranges : registry.Arranges) {before after : List PluginEntry}
    (filters : ∀ e ∈ before ++ after, e.kind = "builtin.filter")
    (drawn : (build .testCaseRule registry.suiteRules ctx e).IsDone) :
    (buildAll .testCaseRule registry.suiteRules ctx (before ++ e :: after)).IsDone ↔
      (buildAll .testCaseRule registry.suiteRules ctx' (before ++ after)).IsDone := by
  have same : buildAll .testCaseRule registry.suiteRules ctx' (before ++ after) =
      buildAll .testCaseRule registry.suiteRules ctx (before ++ after) :=
    buildAll_filters arranges filters
  rw [same]
  unfold buildAll
  rw [Outcome.isDone_map_iff, Outcome.isDone_map_iff, Outcome.isDone_collect_iff,
    Outcome.isDone_collect_iff, List.forall_mem_append, List.forall_mem_append,
    List.forall_mem_cons]
  simp only [drawn, true_and]

end Registry

/-! ## Plans -/

/-- The context with other rules on suites. -/
def RunContext.reshapedBy (context : RunContext) (entries : List PluginEntry) : RunContext :=
  { context with config :=
    { context.config with rules := { context.config.rules with testCase := entries } } }

namespace RunPlan

variable {registry : Registry W} {context : RunContext} {backends : List (Backend W)}
  {pool : DevicePool}

/-- A pool that passes with some items passes with others, unless there are none of either. -/
theorem isDone_preflight (arranges : registry.Arranges) {es es' : List PluginEntry}
    {items items' : List WorkItem} (alike : items = [] ↔ items' = [])
    (passed : (preflight registry ⟨context.reshapedBy es, pool⟩ items).IsDone) :
    (preflight registry ⟨context.reshapedBy es', pool⟩ items').IsDone := by
  rcases pool with ⟨name, _ | ⟨device, rest⟩⟩
  · exact ⟨(), rfl⟩
  obtain ⟨_, passed⟩ := passed
  obtain ⟨_, devices, passed⟩ := Outcome.andThen_eq_done_iff.1 passed
  obtain ⟨rules, devices⟩ : (registry.rulesOfDevice
      ⟨⟨context.reshapedBy es', ⟨name, device :: rest⟩⟩, device⟩).IsDone :=
    Registry.isDone_buildAll arranges.devices ⟨_, devices⟩
  unfold preflight
  dsimp only
  rw [devices, Outcome.andThen]
  cases items with
  | nil =>
    obtain rfl := alike.1 rfl
    exact ⟨(), rfl⟩
  | cons item others =>
    cases items' with
    | nil => exact absurd (alike.2 rfl) (List.cons_ne_nil item others)
    | cons item' others' =>
      obtain ⟨_, attempts, -⟩ := Outcome.map_eq_done_iff.1 passed
      exact Outcome.isDone_map_iff.2 (Registry.isDone_buildAll arranges.attempts ⟨_, attempts⟩)

variable [Hosted W] {w : W}

/-- What a pool has to prepare, as its rules leave its suite. -/
def Reshaped (registry : Registry W) (ctx : PoolContext) (w : W) (items : List WorkItem) : Prop :=
  ∃ loaded rules, Suite.load ctx.run.config.suite (Hosted.host w).files ctx.pool = .ok loaded ∧
    registry.rulesOfSuite ctx = .done rules ∧ items = SuiteRule.reshape ctx rules loaded

/-- What is planned for a pool: what it has to prepare, prepared, where the rules of the pool can be
built and those of its first device and its first item. -/
theorem ofPool_eq_done_iff {planned : PoolPlan} :
    (ofPool registry context backends pool w).1 = .done planned ↔
      planned.pool = pool ∧ (registry.rulesOfPool ⟨context, pool⟩).IsDone ∧
        (∃ items, Reshaped registry ⟨context, pool⟩ w items ∧
          Suite.prepare pool items backends = .ok planned.items) ∧
        preflight registry ⟨context, pool⟩ planned.items = .done () := by
  constructor
  · intro h
    have steps : ofPool registry context backends pool w =
        (.done planned, (ofPool registry context backends pool w).2) := Prod.ext h rfl
    obtain ⟨own, ruled, ⟨loaded, rules, read, reshaping, prepared⟩, passed⟩ := steps_of_ofPool steps
    exact ⟨own, ruled, ⟨_, ⟨loaded, rules, read, reshaping, rfl⟩, prepared⟩, passed⟩
  · rintro ⟨rfl, ⟨own, ruled⟩, ⟨_, ⟨loaded, rules, read, reshaping, rfl⟩, prepared⟩, passed⟩
    have steps : ofPool registry context backends planned.pool w = (.done planned, w) := by
      refine Action.bind_eq_done_iff.2 ⟨own, w, configured_eq_done_iff.2 ⟨ruled, rfl⟩, ?_⟩
      refine Action.bind_eq_done_iff.2 ⟨loaded, w, ?_, ?_⟩
      · dsimp only at read
        simp only [loadSuite, read]
        rfl
      refine Action.bind_eq_done_iff.2 ⟨rules, w, configured_eq_done_iff.2 ⟨reshaping, rfl⟩, ?_⟩
      refine Action.bind_eq_done_iff.2 ⟨planned.items, w, configured_eq_done_iff.2 ⟨?_, rfl⟩, ?_⟩
      · exact Outcome.ofExcept_eq_done_iff.2 prepared
      exact Action.bind_eq_done_iff.2 ⟨(), w, configured_eq_done_iff.2 ⟨passed, rfl⟩, rfl⟩
    rw [steps]

/-- What comes of planning a pool with these entries for rules on suites. -/
def outcomeWith (registry : Registry W) (context : RunContext) (backends : List (Backend W))
    (pool : DevicePool) (w : W) (entries : List PluginEntry) : Outcome RunError PoolPlan :=
  (ofPool registry (context.reshapedBy entries) backends pool w).1

/-- A pool can be planned with other rules on suites, if with these too there is something to
prepare and it can be prepared to the same items in some order. -/
theorem isDone_outcomeWith (arranges : registry.Arranges) {es es' : List PluginEntry}
    (reshapes : ∀ items, Reshaped registry ⟨context.reshapedBy es, pool⟩ w items →
      ∃ items', Reshaped registry ⟨context.reshapedBy es', pool⟩ w items' ∧
        ∀ ready, Suite.prepare pool items backends = .ok ready →
          ∃ ready', Suite.prepare pool items' backends = .ok ready' ∧ ready.Perm ready')
    (done : (outcomeWith registry context backends pool w es).IsDone) :
    (outcomeWith registry context backends pool w es').IsDone := by
  obtain ⟨planned, done⟩ := done
  obtain ⟨-, ruled, ⟨items, reshaped, prepared⟩, passed⟩ := ofPool_eq_done_iff.1 done
  obtain ⟨items', reshaped', prepares⟩ := reshapes items reshaped
  obtain ⟨ready', prepared', perm⟩ := prepares planned.items prepared
  have ruled' : (registry.rulesOfPool ⟨context.reshapedBy es', pool⟩).IsDone :=
    Registry.isDone_buildAll arranges.pools ruled
  have alike : planned.items = [] ↔ ready' = [] := by
    rw [← List.length_eq_zero_iff, perm.length_eq, List.length_eq_zero_iff]
  obtain ⟨⟨⟩, passed'⟩ : (preflight registry ⟨context.reshapedBy es', pool⟩ ready').IsDone :=
    isDone_preflight arranges alike ⟨(), passed⟩
  exact ⟨⟨pool, ready'⟩,
    ofPool_eq_done_iff.2 ⟨rfl, ruled', ⟨items', reshaped', prepared'⟩, passed'⟩⟩

/-! ### With a shuffle and without -/

section Shuffled

variable {before after : List PluginEntry} {shuffle : PluginEntry}

/-- What there is to prepare with the shuffle is the same, in some order, as without. -/
theorem perm_of_reshaped (arranges : registry.Arranges)
    (filters : ∀ e ∈ before ++ after, e.kind = "builtin.filter")
    (kind : shuffle.kind = "builtin.shuffle") {items items' : List WorkItem}
    (shuffled : Reshaped registry ⟨context.reshapedBy (before ++ shuffle :: after), pool⟩ w items)
    (plain : Reshaped registry ⟨context.reshapedBy (before ++ after), pool⟩ w items') :
    items.Perm items' := by
  obtain ⟨loaded, rules, read, built, rfl⟩ := shuffled
  obtain ⟨loaded', rules', read', built', rfl⟩ := plain
  cases read.symm.trans read'
  exact Registry.perm_reshape arranges filters kind built built' loaded

/-- With the shuffle there is something to prepare if there is without. -/
theorem exists_reshaped_iff (arranges : registry.Arranges)
    (filters : ∀ e ∈ before ++ after, e.kind = "builtin.filter")
    (drawn : (Registry.build .testCaseRule registry.suiteRules
      ⟨context.reshapedBy (before ++ shuffle :: after), pool⟩ shuffle).IsDone) :
    (∃ items, Reshaped registry ⟨context.reshapedBy (before ++ shuffle :: after), pool⟩ w items) ↔
      ∃ items, Reshaped registry ⟨context.reshapedBy (before ++ after), pool⟩ w items := by
  have rules : (registry.rulesOfSuite
        ⟨context.reshapedBy (before ++ shuffle :: after), pool⟩).IsDone ↔
      (registry.rulesOfSuite ⟨context.reshapedBy (before ++ after), pool⟩).IsDone :=
    Registry.isDone_buildAll_iff arranges filters drawn
  constructor
  · rintro ⟨_, loaded, _, read, built, -⟩
    obtain ⟨_, built⟩ := rules.1 ⟨_, built⟩
    exact ⟨_, loaded, _, read, built, rfl⟩
  · rintro ⟨_, loaded, _, read, built, -⟩
    obtain ⟨_, built⟩ := rules.2 ⟨_, built⟩
    exact ⟨_, loaded, _, read, built, rfl⟩

/-- **A shuffle changes the order of a plan.** Planned with a shuffle among filters and planned
without, a pool has items of the same tests. Where no two items that the filters leave are of one
test and differ, it can be planned with the shuffle just if it can be without, and then the items
are the same, in some order. -/
theorem shuffle_keeps_plan (arranges : registry.Arranges)
    (filters : ∀ e ∈ before ++ after, e.kind = "builtin.filter")
    (kind : shuffle.kind = "builtin.shuffle")
    (drawn : (Registry.build .testCaseRule registry.suiteRules
      ⟨context.reshapedBy (before ++ shuffle :: after), pool⟩ shuffle).IsDone) :
    let shuffled := outcomeWith registry context backends pool w (before ++ shuffle :: after)
    let plain := outcomeWith registry context backends pool w (before ++ after)
    (∀ p p', shuffled = .done p → plain = .done p' →
      (p.items.map WorkItem.key).Perm (p'.items.map WorkItem.key)) ∧
    ((∀ items, Reshaped registry ⟨context.reshapedBy (before ++ after), pool⟩ w items →
        Agree items) →
      (shuffled.IsDone ↔ plain.IsDone) ∧
      ∀ p p', shuffled = .done p → plain = .done p' → p.items.Perm p'.items) := by
  intro shuffled plain
  have exists_iff := exists_reshaped_iff (w := w) arranges filters drawn
  have order {items items' : List WorkItem}
      (h : Reshaped registry ⟨context.reshapedBy (before ++ shuffle :: after), pool⟩ w items)
      (h' : Reshaped registry ⟨context.reshapedBy (before ++ after), pool⟩ w items') :
      items.Perm items' := perm_of_reshaped arranges filters kind h h'
  refine ⟨fun p p' done done' => ?tests, fun agree =>
    ⟨⟨?there, ?back⟩, fun p p' done done' => ?same⟩⟩
  case tests =>
    obtain ⟨-, -, ⟨items, reshaped, prepared⟩, -⟩ := ofPool_eq_done_iff.1 done
    obtain ⟨-, -, ⟨items', reshaped', prepared'⟩, -⟩ := ofPool_eq_done_iff.1 done'
    exact Suite.perm_keys_of_prepare (order reshaped reshaped') prepared prepared'
  case there =>
    refine isDone_outcomeWith arranges fun items reshaped => ?_
    obtain ⟨items', reshaped'⟩ := exists_iff.1 ⟨items, reshaped⟩
    have perm := order reshaped reshaped'
    exact ⟨items', reshaped', fun _ => Suite.exists_perm_of_prepare (agree items' reshaped') perm⟩
  case back =>
    refine isDone_outcomeWith arranges fun items' reshaped' => ?_
    obtain ⟨items, reshaped⟩ := exists_iff.2 ⟨items', reshaped'⟩
    have perm := order reshaped reshaped'
    exact ⟨items, reshaped,
      fun _ => Suite.exists_perm_of_prepare ((agree items' reshaped').perm perm) perm.symm⟩
  case same =>
    obtain ⟨-, -, ⟨items, reshaped, prepared⟩, -⟩ := ofPool_eq_done_iff.1 done
    obtain ⟨-, -, ⟨items', reshaped', prepared'⟩, -⟩ := ofPool_eq_done_iff.1 done'
    obtain ⟨ready, prepared'', perm⟩ :=
      Suite.exists_perm_of_prepare (agree items' reshaped') (order reshaped reshaped') prepared
    cases prepared'.symm.trans prepared''
    exact perm

end Shuffled

end RunPlan

namespace Registry

variable [Hosted W]

/-- The built-in components do, whatever seed a shuffle has or is given. -/
theorem arranges_builtin (seed : UInt64) : (builtin (W := W) seed).Arranges where
  filter := rfl
  shuffle := by
    refine ⟨_, rfl, fun ctx e rules built rule hr ctx' items => ?_⟩
    obtain ⟨shuffle, read, rfl⟩ := map_eq_ok_iff.1 (Outcome.ofExcept_eq_done_iff.1 built)
    obtain rfl := List.mem_singleton.1 hr
    obtain ⟨own, -, pure⟩ := bind_eq_ok_iff.1 read
    cases pure
    exact Random.shuffleWith_perm _ items
  pools := judgesAlike_builtin_poolRules seed
  devices := judgesAlike_builtin_deviceRules seed
  attempts := judgesAlike_builtin_attemptRules seed

/-- So do they with a shuffle that puts items into any order one likes. -/
theorem arranges_withSuiteRule (seed : UInt64) {order : SuiteRule}
    (orders : ∀ ctx items, (order.apply ctx items).Perm items) :
    ((builtin (W := W) seed).withSuiteRule "builtin.shuffle"
      fun _ _ => .done [order]).Arranges where
  filter := rfl
  shuffle := by
    refine ⟨_, rfl, fun ctx e rules built rule hr => ?_⟩
    cases built
    obtain rfl := List.mem_singleton.1 hr
    exact orders
  pools := judgesAlike_builtin_poolRules seed
  devices := judgesAlike_builtin_deviceRules seed
  attempts := judgesAlike_builtin_attemptRules seed

end Registry

namespace Shuffling

open RunPlan (outcomeWith)

/-- A test of a package and of a kind. -/
def packaged (package method kind : String) : TestDescriptor :=
  ⟨⟨package, "C", method, kind, [], []⟩, [], []⟩

/-- A run of a suite. -/
def suiteContext (tests : List TestDescriptor) : RunContext :=
  { (default : RunContext) with config := { devices := default, suite := .inline tests } }

/-- A pool of one device. -/
def alone : DevicePool := ⟨⟨"omni"⟩, [.bare "a"]⟩

/-- The unit tests only. -/
def unitsOnly : PluginEntry := ⟨"builtin.filter", none, [("kinds", .list [.text "unit"])]⟩

/-- A shuffle with a seed. -/
def shuffled (seed : Int) : PluginEntry := ⟨"builtin.shuffle", none, [("seed", .int seed)]⟩

/-- A backend for all tests. -/
def passing : List (Backend Host) := [(⟨"any", .pass, .zero, [], []⟩ : DryRun).backend]

/-- What comes of planning a suite on one device, with rules on it. -/
def plannedWith (tests : List TestDescriptor) (entries : List PluginEntry) :
    Outcome RunError PoolPlan :=
  outcomeWith (Registry.builtin 0) (suiteContext tests) passing alone (default : Host) entries

/-- A suite that lists a test twice, in the same words. -/
def relisted : List TestDescriptor :=
  [packaged "p" "m" "unit", packaged "q" "n" "unit", packaged "q" "n" "unit", packaged "p" "o" "ui"]

/-- Shuffled or not, the tests of the one kind are planned, in some order. -/
theorem shuffled_of_relisted :
    ∃ p p', plannedWith relisted [unitsOnly, shuffled 2] = .done p ∧
      plannedWith relisted [unitsOnly] = .done p' ∧ p.items.Perm p'.items := by
  have filters : ∀ e ∈ [unitsOnly] ++ [], e.kind = "builtin.filter" := by decide
  have drawn : (Registry.build .testCaseRule (Registry.builtin (W := Host) 0).suiteRules
      ⟨(suiteContext relisted).reshapedBy ([unitsOnly] ++ shuffled 2 :: []), alone⟩
      (shuffled 2)).IsDone := ⟨_, rfl⟩
  have plain : (plannedWith relisted ([unitsOnly] ++ [])).IsDone := ⟨_, rfl⟩
  have agree : ∀ items, RunPlan.Reshaped (Registry.builtin (W := Host) 0)
      ⟨(suiteContext relisted).reshapedBy ([unitsOnly] ++ []), alone⟩ default items →
      Agree items := by
    rintro _ ⟨loaded, rules, read, built, rfl⟩
    cases read
    cases built
    decide
  obtain ⟨-, same⟩ := @RunPlan.shuffle_keeps_plan Host (Registry.builtin 0) (suiteContext relisted)
    passing alone _ default [unitsOnly] [] (shuffled 2) (Registry.arranges_builtin 0) filters rfl
    drawn
  obtain ⟨goesWell, perm⟩ := same agree
  obtain ⟨p, done⟩ := goesWell.2 plain
  obtain ⟨p', done'⟩ := plain
  exact ⟨p, p', done, done', perm p p' done done'⟩

/-- The items of a plan, if there is one. -/
def itemsOf : Outcome RunError PoolPlan → List WorkItem
  | .done plan => plan.items
  | _ => []

theorem exists_of_itemsOf {outcome : Outcome RunError PoolPlan} (some_ : itemsOf outcome ≠ []) :
    ∃ plan, outcome = .done plan ∧ plan.items = itemsOf outcome := by
  cases outcome with
  | done plan => exact ⟨plan, rfl, rfl⟩
  | failed | panicked => exact absurd rfl some_

/-- The same test of two packages. -/
def ofTwoPackages : List TestDescriptor := [packaged "p" "m" "unit", packaged "q" "m" "unit"]

/-- Of which package the test is that is planned, is up to the order that a shuffle gives. -/
theorem repackaged_of_shuffled :
    ∃ p p', plannedWith ofTwoPackages [shuffled 2] = .done p ∧
      plannedWith ofTwoPackages [] = .done p' ∧ ¬ p.items.Perm p'.items := by
  have apart : ¬ (itemsOf (plannedWith ofTwoPackages [shuffled 2])).Perm
      (itemsOf (plannedWith ofTwoPackages [])) := by decide +kernel
  have items : itemsOf (plannedWith ofTwoPackages [shuffled 2]) ≠ [] := by decide +kernel
  have items' : itemsOf (plannedWith ofTwoPackages []) ≠ [] := by decide +kernel
  obtain ⟨p, done, same⟩ := exists_of_itemsOf items
  obtain ⟨p', done', same'⟩ := exists_of_itemsOf items'
  refine ⟨p, p', done, done', ?_⟩
  rwa [same, same']

end Shuffling

end TestFleet
