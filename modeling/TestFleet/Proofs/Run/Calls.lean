import TestFleet.Proofs.Run.Place
import TestFleet.Proofs.Run.Pool
/-!
# The calls that are made in a run

What happens to the world while a run lasts is done by calls of rules, of a backend and of the reporter
(`Call.Made`). A pipeline whose rules are those of a place is entered and unwound by calls there
(`Place.path_enter`, `Place.path_unwind`). An attempt calls its rules and at most one backend between
them; if one of these gives something of another identity the attempt fails
(`AttemptContext.path_run`).
-/
namespace TestFleet

variable {W : Type}

/-- A call, and whether it gave something of another identity than it should have. -/
structure Call where
  event : Event
  foreign : Bool

/-- A call of a rule, at its place. -/
def RuleCall.at_ (place : Place) (call : RuleCall) : Call :=
  ⟨.rule place call.stage call.act, call.foreign⟩

/-- Whether one of the calls gave something of another identity. -/
def AnyForeign (calls : List Call) : Prop := ∃ call ∈ calls, call.foreign = true

theorem RuleCall.events_at (place : Place) (calls : List RuleCall) :
    (calls.map (RuleCall.at_ place)).map Call.event = place.events (calls.map RuleCall.what) := by
  simp only [Place.events, List.map_map]
  rfl

theorem RuleCall.anyForeign_at {place : Place} {calls : List RuleCall} :
    AnyForeign (calls.map (RuleCall.at_ place)) ↔ ∃ call ∈ calls, call.foreign = true := by
  simp [AnyForeign, RuleCall.at_]

theorem anyForeign_append {xs ys : List Call} :
    AnyForeign (xs ++ ys) ↔ AnyForeign xs ∨ AnyForeign ys := by
  simp only [AnyForeign, List.mem_append, or_and_right, exists_or]

theorem not_anyForeign_nil : ¬ AnyForeign [] := nofun

/-- Nobody is called but the reporter. -/
def OnlyTold (calls : List Call) : Prop := ∀ call ∈ calls, call = ⟨.told, false⟩

theorem OnlyTold.not_anyForeign {calls : List Call} (told : OnlyTold calls) : ¬ AnyForeign calls := by
  rintro ⟨call, hcall, foreign⟩
  rw [told call hcall] at foreign
  cases foreign

/-! ## What a call does -/

/-- The reporter does not panic. -/
structure Reporter.IsCalm (reporter : Reporter W) : Prop where
  started : ∀ plans, (reporter.started plans).IsCalm
  tested : ∀ result, (reporter.tested result).IsCalm
  completed : ∀ result, (reporter.completed result).IsCalm

/-- What the reporter can be told. -/
inductive Reporter.Told (reporter : Reporter W) : Action W Empty Unit → Prop where
  | started (plans : List PoolPlan) : Told reporter (reporter.started plans)
  | tested (result : TestResult) : Told reporter (reporter.tested result)
  | completed (result : RunResult) : Told reporter (reporter.completed result)

section Calls

variable [Hosted W]

/-- The rules around an attempt: the measuring of time, and those of the configuration if they can be
built. -/
def AttemptContext.rulesAround (ctx : AttemptContext) (registry : Registry W)
    (started : Time.Moment) : List (Rule W AttemptContext TestResult) :=
  timingRule started ::
    match registry.rulesOfAttempt ctx with
    | .done rules => rules
    | .failed _ | .panicked _ => []

/-- **A call leads from one world to another.** At the place of a pool, a device or an attempt it is a
call of the rules that are built for it. -/
inductive Call.Made (setting : Setting W) (plans : List PoolPlan) : Call → W → W → Prop where
  | ofRun {rules : List (Rule W RunContext RunResult)} {call : RuleCall} {w v : W}
    (built : setting.registry.rulesOfRun setting.context = .done rules)
    (called : Rule.Called rules setting.context call w v) : Made setting plans (call.at_ .run) w v
  | ofPool {i : Nat} {plan : PoolPlan} {rules : List (Rule W PoolContext PoolResult)}
    {call : RuleCall} {w v : W} (planned : plans[i]? = some plan)
    (built : setting.registry.rulesOfPool ⟨setting.context, plan.pool⟩ = .done rules)
    (called : Rule.Called rules ⟨setting.context, plan.pool⟩ call w v) :
    Made setting plans (call.at_ (.pool i)) w v
  | ofDevice {i j : Nat} {plan : PoolPlan} {device : Device}
    {rules : List (Rule W DeviceContext DeviceSummary)} {call : RuleCall} {w v : W}
    (planned : plans[i]? = some plan) (listed : plan.pool.devices[j]? = some device)
    (built : setting.registry.rulesOfDevice ⟨⟨setting.context, plan.pool⟩, device⟩ = .done rules)
    (called : Rule.Called rules ⟨⟨setting.context, plan.pool⟩, device⟩ call w v) :
    Made setting plans (call.at_ (.device i j)) w v
  | ofAttempt {i j n : Nat} {item : WorkItem} {started : Time.Moment} {plan : PoolPlan}
    {device : Device} {ctx : AttemptContext} {call : RuleCall} {w v : W}
    (planned : plans[i]? = some plan) (listed : plan.pool.devices[j]? = some device)
    (own : ctx = ⟨⟨⟨setting.context, plan.pool⟩, device⟩, item⟩)
    (called : Rule.Called (ctx.rulesAround setting.registry started) ctx call w v) :
    Made setting plans (call.at_ (.attempt i j n item started)) w v
  | ofBackend {i j n : Nat} {item : WorkItem} {started : Time.Moment} {plan : PoolPlan}
    {device : Device} {ctx : AttemptContext} {backend : Backend W} {w : W}
    (planned : plans[i]? = some plan) (listed : plan.pool.devices[j]? = some device)
    (own : ctx = ⟨⟨⟨setting.context, plan.pool⟩, device⟩, item⟩)
    (known : backend ∈ setting.backends) :
    Made setting plans ⟨.backend (.attempt i j n item started),
      (ctx.answer backend w).1.any (·.isForeign (R := TestResult) ctx.identity)⟩ w
      (ctx.answer backend w).2
  | ofReporter {x : Action W Empty Unit} {w : W} (told : setting.reporter.Told x) :
    Made setting plans ⟨.told, false⟩ w (x w).2

/-- To measure time changes neither the world nor the identity of a result. -/
theorem Rule.Called.of_timingRule {started : Time.Moment} {ctx : AttemptContext} {call : RuleCall}
    {w v : W} (called : Rule.Called [timingRule started] ctx call w v) :
    v = w ∧ call.foreign = false := by
  cases called with
  | entered at_k done =>
    obtain rfl := List.mem_singleton.1 (List.mem_of_getElem? at_k)
    cases done
    exact ⟨rfl, rfl⟩
  | refused at_k failed =>
    obtain rfl := List.mem_singleton.1 (List.mem_of_getElem? at_k)
    cases failed
  | left at_k =>
    obtain rfl := List.mem_singleton.1 (List.mem_of_getElem? at_k)
    exact ⟨rfl, decide_eq_false fun differs => differs rfl⟩

variable {setting : Setting W} {plans : List PoolPlan}

/-! ## The rules of a place -/

namespace Place

variable {C R : Type} [Carried R] {p : Pipeline W C R} {ctx : C} {place : Place} {depth : Nat}

/-- The calls of a pipeline's rules are calls that are made at a place. -/
def Hosts (setting : Setting W) (plans : List PoolPlan) (place : Place) (p : Pipeline W C R)
    (ctx : C) : Prop :=
  ∀ call w v, Rule.Called p.rules ctx call w v → Call.Made setting plans (call.at_ place) w v

section Hosts

variable (hosts : place.Hosts setting plans p ctx) (calm : ∀ rule ∈ p.rules, rule.IsCalm)

include hosts calm

theorem path_enter (w : W) :
    ∃ entered v calls, p.enter ctx w = (.done entered, v) ∧ entered.depth ≤ p.rules.length ∧
      Path (Call.Made setting plans) w calls v ∧
      calls.map Call.event =
        place.events (Pipeline.entering entered.depth entered.failure.isNone) ∧
      ¬ AnyForeign calls := by
  obtain ⟨entered, v, calls, enter, within, path, entering, own⟩ := Pipeline.path_enter ctx calm w
  refine ⟨entered, v, _, enter, within, path.map hosts, ?_, ?_⟩
  · rw [RuleCall.events_at, entering]
  · rw [RuleCall.anyForeign_at]
    rintro ⟨call, hcall, foreign⟩
    simp [own call hcall] at foreign

theorem path_unwind (carried : R) (within : depth ≤ p.rules.length) (w : W) :
    ∃ o v calls, p.unwind ctx carried depth w = (o, v) ∧ (∀ m, o ≠ .panicked m) ∧
      Path (Call.Made setting plans) w calls v ∧
      calls.map Call.event = place.events (Pipeline.leaving depth) ∧
      (AnyForeign calls → ∃ e, o = .failed e) := by
  obtain ⟨calls, path, leaving, changed⟩ := Pipeline.path_unwind ctx carried calm within w
  have quiet : (p.unwind ctx carried depth).IsCalm := Pipeline.isCalm_unwind calm
  refine ⟨_, _, _, rfl, quiet w, path.map hosts, ?_, fun foreign => ?_⟩
  · rw [RuleCall.events_at, leaving]
  · exact changed (RuleCall.anyForeign_at.1 foreign)

theorem path_release {ε : Type} (carried : R) (within : depth ≤ p.rules.length) (w : W) :
    ∃ v calls, (p.release ctx carried depth : Action W ε Unit) w = (.done (), v) ∧
      Path (Call.Made setting plans) w calls v ∧
      calls.map Call.event = place.events (Pipeline.leaving depth) := by
  obtain ⟨v, calls, released, path, leaving⟩ :=
    Pipeline.path_release (ε := ε) ctx carried calm within w
  refine ⟨v, _, released, path.map hosts, ?_⟩
  rw [RuleCall.events_at, leaving]

end Hosts

end Place

/-! ## Attempts -/

namespace AttemptContext

variable {plan : PoolPlan} {i j n : Nat} {device : Device} {item : WorkItem} {ctx : AttemptContext}

/-- What is run for an attempt is one backend at most. A result of another identity is what the attempt
fails with. -/
theorem path_execute (planned : plans[i]? = some plan) (listed : plan.pool.devices[j]? = some device)
    (own : ctx = ⟨⟨⟨setting.context, plan.pool⟩, device⟩, item⟩) (n : Nat) (started : Time.Moment)
    (w : W) :
    ∃ o v calls, ctx.execute setting.backends w = (o, v) ∧ Path (Call.Made setting plans) w calls v ∧
      (∀ e ∈ calls.map Call.event, e = .backend (.attempt i j n item started)) ∧
      (AnyForeign calls → ∃ e, o = .failed e) ∧
      (∀ m, o = .panicked m → ctx.answerLimit.overflows = true) := by
  have called {b : Backend W} {o : Option (Outcome BackendError TestResult)} {v : W}
      (found : ctx.backend? setting.backends = some b) (answered : ctx.answer b w = (o, v)) :
      Call.Made setting plans
        ⟨.backend (.attempt i j n item started), o.any (·.isForeign ctx.identity)⟩ w v := by
    obtain ⟨id, -, found⟩ := Option.bind_eq_some_iff.1 found
    have made : Call.Made setting plans ⟨.backend (.attempt i j n item started),
        (ctx.answer b w).1.any (·.isForeign (R := TestResult) ctx.identity)⟩ w (ctx.answer b w).2 :=
      .ofBackend planned listed own (List.mem_of_find?_eq_some found)
    rwa [answered] at made
  rcases ran : ctx.execute setting.backends w with ⟨o, v⟩
  cases executed_of_execute ran with
  | unfound => exact ⟨_, w, [], rfl, .nil, List.forall_mem_nil _, not_anyForeign_nil.elim, nofun⟩
  | overlong overflow =>
    exact ⟨_, w, [], rfl, .nil, List.forall_mem_nil _, not_anyForeign_nil.elim, fun _ _ => overflow⟩
  | @own _ r _ found _ answered same =>
    have native : (Outcome.done r : Outcome BackendError TestResult).isForeign ctx.identity = false :=
      decide_eq_false fun differs => differs same
    refine ⟨_, v, _, rfl, .single (called found answered), by simp, ?_, nofun⟩
    simp [AnyForeign, native]
  | foreign found _ answered =>
    exact ⟨_, v, _, rfl, .single (called found answered), by simp, fun _ => ⟨_, rfl⟩, nofun⟩
  | @fruitless _ o _ found _ answered nothing =>
    refine ⟨_, v, _, rfl, .single (called found answered), by simp, ?_, nofun⟩
    rcases o with _ | ⟨r⟩ | _ | _
    case some.done => exact absurd rfl (nothing r)
    all_goals simp [AnyForeign, Outcome.isForeign]

/-- What an attempt carries out through its rules comes of at most one call, that of a backend. -/
theorem path_result (planned : plans[i]? = some plan) (listed : plan.pool.devices[j]? = some device)
    (own : ctx = ⟨⟨⟨setting.context, plan.pool⟩, device⟩, item⟩) (n : Nat)
    (setup : Option ConfigError) (entered : Entered) (started : Time.Moment) (w : W) :
    ∃ o v calls, ctx.result setting.backends setup entered started w = (o, v) ∧
      Path (Call.Made setting plans) w calls v ∧
      (∀ e ∈ calls.map Call.event, e = .backend (.attempt i j n item started)) ∧
      (entered.failure.isNone = false → calls.map Call.event = []) ∧
      (AnyForeign calls → ∃ e, o = .failed e) ∧
      (∀ m, o = .panicked m → ctx.answerLimit.overflows = true) := by
  unfold result
  split
  · exact ⟨_, w, [], rfl, .nil, List.forall_mem_nil _, fun _ => rfl, not_anyForeign_nil.elim, nofun⟩
  · exact ⟨_, w, [], rfl, .nil, List.forall_mem_nil _, fun _ => rfl, not_anyForeign_nil.elim, nofun⟩
  · rename_i complete
    have one : entered.failure.isNone ≠ false := by simp [complete]
    obtain ⟨o, v, calls, ran, path, backend, failing, limit⟩ :=
      path_execute planned listed own n started w
    exact ⟨o, v, calls, ran, path, backend, fun none => absurd none one, failing, limit⟩

/-- The rules of an attempt are entered before its result is found and left after it, the result being
given up if it is foreign. -/
theorem run_eq (setting : Setting W) {p : Pipeline W AttemptContext TestResult} {setup : Option ConfigError}
    {entered : Entered} {w v : W} (built : ctx.pipeline setting.registry w = (.done (p, setup), w))
    (enter : p.enter ctx w = (.done entered, v)) :
    ctx.run setting w =
      match ctx.result setting.backends setup entered (Hosted.now w) v with
      | (.done r, u) => p.unwind ctx r entered.depth u
      | (.failed e, u) =>
        ((p.release ctx (ctx.errorResult (Hosted.now w) e.message u) entered.depth).andThen
          fun _ => .fail e) u
      | (.panicked m, u) => (.panicked m, u) := by
  have clock : (Hosted.clock : Action W PipelineError Time.Moment) w = (.done (Hosted.now w), w) := rfl
  simp only [run, bind, Action.andThen, built, clock, enter, Action.attempt]
  rcases ctx.result setting.backends setup entered (Hosted.now w) v with ⟨_ | _ | _, u⟩ <;> rfl

/-- The pipeline of an attempt is that of the rules around it, unless building them panics. -/
theorem pipeline_cases (ctx : AttemptContext) (registry : Registry W) (w : W) :
    (∃ m, ctx.pipeline registry w = (.panicked m, w)) ∨
      ∃ p setup, ctx.pipeline registry w = (.done (p, setup), w) ∧
        p.rules = ctx.rulesAround registry (Hosted.now w) := by
  unfold pipeline rulesAround
  dsimp only
  cases registry.rulesOfAttempt ctx with
  | done rules => exact .inr ⟨_, none, rfl, rfl⟩
  | failed e => exact .inr ⟨_, some e, rfl, rfl⟩
  | panicked m => exact .inl ⟨m, rfl⟩

/-- **An attempt is bracketed**, unless the limit for its backend cannot be told. If its backend or one
of its rules gives something of another identity it fails. -/
theorem path_run (calm : setting.registry.IsCalm) (planned : plans[i]? = some plan)
    (listed : plan.pool.devices[j]? = some device)
    (own : ctx = ⟨⟨⟨setting.context, plan.pool⟩, device⟩, item⟩) (n : Nat) (w : W) :
    ∃ o v calls, ctx.run setting w = (o, v) ∧ Path (Call.Made setting plans) w calls v ∧
      (AnyForeign calls → ∃ e, o = .failed e) ∧
      (∀ e ∈ calls.map Call.event, e.isWithin (.attempt i j n item (Hosted.now w)) = true) ∧
      (ctx.answerLimit.overflows = false →
        Bracketed (.attempt i j n item (Hosted.now w)) (calls.map Call.event)) := by
  rcases pipeline_cases ctx setting.registry w with ⟨m, panicked⟩ | ⟨p, setup, built, rules⟩
  · have eq : ctx.run setting w = (.panicked m, w) := by
      simp only [run, bind, Action.andThen, panicked]
    exact ⟨_, w, [], eq, .nil, nofun, nofun, fun _ => Untouched.nil.bracketed⟩
  · have calmRules := isCalm_of_pipeline calm built
    have hosts : (Place.attempt i j n item (Hosted.now w)).Hosts setting plans p ctx :=
      fun call w v called => .ofAttempt planned listed own (rules ▸ called)
    obtain ⟨entered, v, before, enter, within, path, entering, native⟩ :=
      Place.path_enter hosts calmRules w
    obtain ⟨o, u, middle, found, pathMiddle, backend, none, failing, limit⟩ :=
      path_result planned listed own n setup entered (Hosted.now w) v
    have eq := run_eq setting built enter
    rw [found] at eq
    have first := path.append pathMiddle
    -- The rules that were entered are left, whatever there is to carry out through them.
    have ended : (∃ m, o = .panicked m) ∨ ∃ o' u' after, ctx.run setting w = (o', u') ∧
        Path (Call.Made setting plans) u after u' ∧
        after.map Call.event = (Place.attempt i j n item (Hosted.now w)).events
          (Pipeline.leaving entered.depth) ∧
        (AnyForeign middle ∨ AnyForeign after → ∃ e, o' = .failed e) := by
      cases o with
      | done r =>
        obtain ⟨o', u', after, unwound, -, last, leaving, changed⟩ :=
          Place.path_unwind hosts calmRules r within u
        refine .inr ⟨o', u', after, eq.trans unwound, last, leaving, fun foreign => ?_⟩
        refine changed (foreign.resolve_left fun foreign => ?_)
        obtain ⟨e, failed⟩ := failing foreign
        cases failed
      | failed e =>
        obtain ⟨u', after, released, last, leaving⟩ := Place.path_release (ε := PipelineError) hosts
          calmRules (ctx.errorResult (Hosted.now w) e.message u) within u
        refine .inr ⟨.failed e, u', after, eq.trans ?_, last, leaving, fun _ => ⟨e, rfl⟩⟩
        exact Action.andThen_of_done released
      | panicked m => exact .inl ⟨m, rfl⟩
    have inside : ∀ e ∈ (before ++ middle).map Call.event,
        e.isWithin (.attempt i j n item (Hosted.now w)) = true := by
      rw [List.map_append, entering]
      refine List.forall_mem_append.2 ⟨fun e => Place.isWithin_of_mem_events, fun e he => ?_⟩
      rw [backend e he]
      simp [Event.isWithin, Event.isInside, Place.isWithin]
    rcases ended with ⟨m, rfl⟩ | ⟨o', u', after, eq, last, leaving, changed⟩
    · refine ⟨_, u, _, eq, first, fun foreign => ?_, inside, fun fits => ?_⟩
      · obtain ⟨e, failed⟩ := failing ((anyForeign_append.1 foreign).resolve_left native)
        cases failed
      · simp [limit m rfl] at fits
    · refine ⟨o', u', _, eq, first.append last, fun foreign => ?_, ?_, fun _ => ?_⟩
      · refine changed ((anyForeign_append.1 foreign).imp_left fun foreign => ?_)
        exact (anyForeign_append.1 foreign).resolve_left native
      · rw [List.map_append, leaving]
        exact List.forall_mem_append.2 ⟨inside, fun e => Place.isWithin_of_mem_events⟩
      · have opened : Opened (.attempt i j n item (Hosted.now w)) entered.depth
            entered.failure.isNone (before.map Call.event) := by
          rw [entering]
          exact Untouched.nil.enter
        have still : Opened (.attempt i j n item (Hosted.now w)) entered.depth
            entered.failure.isNone ((before ++ middle).map Call.event) := by
          rw [List.map_append]
          cases partly : entered.failure.isNone with
          | true =>
            refine (partly ▸ opened).call fun e he => ?_
            rw [backend e he]
            rfl
          | false =>
            rw [none partly, List.append_nil]
            exact partly ▸ opened
        rw [List.map_append, leaving]
        exact still.leave

end AttemptContext

end Calls

end TestFleet
