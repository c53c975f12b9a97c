import TestFleet.Proofs.Run.Bracketing
/-!
# What an execution calls

An execution enters the rules of the run, lets the pools take a course, and unwinds the rules. All that
it does to the world is done by calls (`RunPlan.exists_calls`).
-/
namespace TestFleet

variable {W : Type} [Hosted W] {setting : Setting W} {plans : List PoolPlan}

/-! ## Errors that end a run -/

/-- A run fails if one of its pools does. -/
theorem RunPlan.isSome_failure? {outcomes : List (Except RunError PoolResult)} {e : RunError}
    (failed : .error e ∈ outcomes) : (failure? outcomes).isSome = true := by
  have graver (met : Option RunError) (e : RunError) : (graver met e).isSome = true := by
    unfold RunPlan.graver
    split <;> rfl
  -- An error that was met is never forgotten.
  have any : (none : Option RunError).isSome = true ∨ .error e ∈ outcomes := .inr failed
  unfold failure?
  generalize (none : Option RunError) = met at any ⊢
  clear failed
  induction outcomes generalizing met with
  | nil => exact any.resolve_right List.not_mem_nil
  | cons outcome rest ih =>
    rw [List.foldl_cons]
    refine ih _ ?_
    cases outcome with
    | ok r => simpa using any
    | error e' => exact .inl (graver met e')

namespace RunState

variable {s : RunState W} {quota : Nat} {world : W}

/-- What was given of another identity is not forgotten: there is a pool with an error that ends the
run, and what pools have failed with is among the outcomes. -/
structure Remembers (s : RunState W) (calls : List Call) : Prop where
  doomed : AnyForeign calls → ∃ p ∈ s.pools, p.isDoomed = true
  kept : ∀ p ∈ s.pools, ∀ e, p.phase = .finished (.error e) → .error e ∈ s.outcomes

omit [Hosted W] in
theorem Remembers.put {i : Nat} {p p' : PoolState W} {c' : Common W} {calls new : List Call}
    (remembers : s.Remembers calls) (at_i : s.pools[i]? = some p)
    (doomed : p.isDoomed = true ∨ AnyForeign new → p'.isDoomed = true) :
    (s.put i (p', c')).Remembers (calls ++ new) where
  doomed foreign := by
    obtain ⟨others, before, after⟩ := exists_others_of_set at_i (b := p')
    have here : p' ∈ (s.put i (p', c')).pools := after.mem_iff.2 List.mem_cons_self
    rcases anyForeign_append.1 foreign with earlier | now
    · obtain ⟨q, hq, was⟩ := remembers.doomed earlier
      rcases List.mem_cons.1 (before.mem_iff.1 hq) with rfl | other
      · exact ⟨p', here, doomed (.inl was)⟩
      · exact ⟨q, after.mem_iff.2 (List.mem_cons_of_mem _ other), was⟩
    · exact ⟨p', here, doomed (.inr now)⟩
  kept q hq e phase := by
    rcases List.mem_or_eq_of_mem_set hq with other | rfl
    · have before := remembers.kept q other e phase
      simp only [RunState.put, noted]
      split
      · exact List.mem_append_left _ before
      · exact before
    · simp only [RunState.put, noted, phase]
      exact List.mem_append_right _ List.mem_cons_self

omit [Hosted W] in
/-- A run of which every pool is over fails if something of another identity was given. -/
theorem Remembers.isSome_failure? {calls : List Call} (remembers : s.Remembers calls)
    (ended : s.isOver = true) (foreign : AnyForeign calls) :
    (RunPlan.failure? s.outcomes).isSome = true := by
  obtain ⟨p, hp, doomed⟩ := remembers.doomed foreign
  have ended := List.all_eq_true.1 ended p hp
  cases phase : p.phase with
  | finished outcome =>
    cases outcome with
    | ok r => simp [PoolState.isDoomed, phase] at doomed
    | error e => exact RunPlan.isSome_failure? (remembers.kept p hp e phase)
  | _ => simp_all [PoolState.isDoomed, PoolState.isOver]

/-- All that the pools of a run do to the world is done by calls. -/
theorem Reachable.calls (calm : setting.registry.IsCalm) (told : setting.reporter.IsCalm)
    (reachable : Reachable setting (ofPlans world quota plans) s) :
    ∃ calls, Path (Call.Made setting plans) world calls s.common.world ∧ s.Remembers calls ∧
      (setting.context.config.run.Tellable → s.Stands (calls.map Call.event)) := by
  refine reachable.exists_calls calm told (fun calls s => s.Remembers calls ∧
    (setting.context.config.run.Tellable → s.Stands (calls.map Call.event))) ?_ ?_
  · refine ⟨⟨nofun, fun p hp e phase => ?_⟩, fun _ => stands_ofPlans⟩
    obtain ⟨plan, -, rfl⟩ := List.mem_map.1 hp
    cases phase
  · intro calls s i p p' c' new at_i shows doomed known
    refine ⟨known.1.put at_i doomed, fun tellable => ?_⟩
    rw [List.map_append]
    exact (known.2 tellable).put tellable at_i shows

end RunState

/-! ## Executions -/

namespace RunPlan

variable {plan : RunPlan W} {course : RunState W → RunState W} {registry : Registry W}
  {reporter : Reporter W} {rules : List (Rule W RunContext RunResult)} {entered : Entered} {w v : W}

/-- How an execution ends whose rules were entered: with an error the rules are given up, else they are
unwound and the reporter is told. -/
def finish (plan : RunPlan W) (reporter : Reporter W) (rules : List (Rule W RunContext RunResult))
    (depth : Nat) (r : RunResult) : Option RunError → Action W RunError RunResult
  | some e => (Pipeline.release ⟨.run, rules⟩ plan.context r depth).andThen fun _ => .fail e
  | none =>
    ((Pipeline.unwind ⟨.run, rules⟩ plan.context r depth).mapError .pipeline).andThen fun r =>
      (tell (reporter.completed r)).andThen fun _ => .give r

/-- What is left of an execution whose rules were entered. -/
def afterEntering (plan : RunPlan W) (course : RunState W → RunState W) (registry : Registry W)
    (reporter : Reporter W) (rules : List (Rule W RunContext RunResult)) (started : Time.Moment)
    (depth : Nat) : Action W RunError RunResult :=
  (tell (reporter.started plan.pools)).andThen fun _ w =>
    let s := course (RunState.ofPlans w (plan.setting registry reporter).retry.total plan.pools)
    let r := plan.result (results s.outcomes) started (Hosted.now s.common.world) s.common.budget.used
    plan.finish reporter rules depth r (failure? s.outcomes) s.common.world

theorem executeBy_eq (plan : RunPlan W) (course : RunState W → RunState W) (reporter : Reporter W)
    (built : registry.rulesOfRun plan.context = .done rules)
    (enter : Pipeline.enter ⟨.run, rules⟩ plan.context w = (.done entered, v)) :
    plan.executeBy course registry reporter w =
      match entered.failure with
      | some e =>
        plan.finish reporter rules entered.depth (plan.result [] (Hosted.now w) (Hosted.now v) 0)
          (some (.pipeline e)) v
      | none => plan.afterEntering course registry reporter rules (Hosted.now w) entered.depth v := by
  have clock (w : W) :
    (Hosted.clock : Action W RunError Time.Moment) w = (.done (Hosted.now w), w) := rfl
  simp only [executeBy, bind, Action.andThen, configured, Action.ofOutcome, Outcome.mapError, built,
    clock, Action.mapError, enter]
  cases entered.failure with
  | some e => rfl
  | none =>
    simp only [afterEntering, Action.andThen, runPools]
    rcases tell (reporter.started plan.pools) v with ⟨_ | _ | _, v⟩
    · dsimp only
      cases failure? (course (RunState.ofPlans v (plan.setting registry reporter).retry.total
        plan.pools)).outcomes <;> rfl
    · rfl
    · rfl

/-- The reporter is called, and does not stop the execution. -/
theorem path_tell {x : Action W Empty Unit} (calm : x.IsCalm) (told : setting.reporter.Told x) (w : W) :
    ∃ v, tell x w = (.done (), v) ∧ Path (Call.Made setting plans) w [⟨.told, false⟩] v := by
  have path : Path (Call.Made setting plans) w [⟨.told, false⟩] (x w).2 := .single (.ofReporter told)
  obtain ⟨v, ⟨_, done⟩ | ⟨e, -⟩⟩ := calm.done_or_failed w
  · rw [done] at path
    refine ⟨v, ?_, path⟩
    unfold tell Action.mapError
    rw [done]
    rfl
  · contradiction

/-- As an execution ends the rules of the run are left, and perhaps the reporter is told. It fails if
it had an error, or if one of the rules changes the identity of the result. -/
theorem calls_finish (calm : registry.IsCalm) (told : reporter.IsCalm)
    (built : registry.rulesOfRun plan.context = .done rules) {depth : Nat}
    (within : depth ≤ rules.length) (r : RunResult) (failed : Option RunError) (w : W) :
    ∃ o v leave last, plan.finish reporter rules depth r failed w = (o, v) ∧
      Path (Call.Made (plan.setting registry reporter) plan.pools) w (leave ++ last) v ∧
      leave.map Call.event = Place.run.events (Pipeline.leaving depth) ∧ OnlyTold last ∧
      (failed.isSome = true ∨ AnyForeign leave → ∃ e, o = .failed e) := by
  have calmRules : ∀ rule ∈ rules, rule.IsCalm := calm.run _ rules built
  have hosts : Place.run.Hosts (plan.setting registry reporter) plan.pools ⟨.run, rules⟩ plan.context :=
    fun call w v called => .ofRun built called
  have nobody : OnlyTold [] := List.forall_mem_nil _
  cases failed with
  | some e =>
    obtain ⟨u, leave, released, path, leaving⟩ :=
      Place.path_release (ε := RunError) hosts calmRules r within w
    refine ⟨.failed e, u, leave, [], Action.andThen_of_done released, ?_, leaving, nobody,
      fun _ => ⟨e, rfl⟩⟩
    rwa [List.append_nil]
  | none =>
    obtain ⟨o, u, leave, unwound, quiet, path, leaving, changed⟩ :=
      Place.path_unwind hosts calmRules r within w
    have carried : ((Pipeline.unwind ⟨.run, rules⟩ plan.context r depth).mapError RunError.pipeline) w =
        (o.mapError .pipeline, u) := by
      unfold Action.mapError
      rw [unwound]
    cases o with
    | done r =>
      obtain ⟨v, completed, last⟩ : ∃ v, tell (reporter.completed r) u = (.done (), v) ∧
          Path (Call.Made (plan.setting registry reporter) plan.pools) u [⟨.told, false⟩] v :=
        path_tell (told.completed r) (.completed r) u
      refine ⟨.done r, v, leave, _, ?_, path.append last, leaving, by simp [OnlyTold], ?_⟩
      · exact (Action.andThen_of_done carried).trans (Action.andThen_of_done completed)
      · intro foreign
        obtain ⟨e, failed⟩ := changed (foreign.resolve_left (by simp))
        cases failed
    | failed e =>
      refine ⟨.failed (.pipeline e), u, leave, [], Action.andThen_of_failed carried, ?_, leaving, nobody,
        fun _ => ⟨_, rfl⟩⟩
      rwa [List.append_nil]
    | panicked m => exact absurd rfl (quiet m)

/-- What is called once the rules of the run were entered: the reporter, all that the pools call, the
rules again, and perhaps the reporter. -/
theorem calls_afterEntering (calm : registry.IsCalm) (told : reporter.IsCalm)
    (courses : IsCourse (plan.setting registry reporter) plan.pools course)
    (built : registry.rulesOfRun plan.context = .done rules) {depth : Nat}
    (within : depth ≤ rules.length) (started : Time.Moment) (w : W) :
    ∃ o v inner leave last, plan.afterEntering course registry reporter rules started depth w = (o, v) ∧
      Path (Call.Made (plan.setting registry reporter) plan.pools) w
        ([⟨.told, false⟩] ++ inner ++ (leave ++ last)) v ∧
      leave.map Call.event = Place.run.events (Pipeline.leaving depth) ∧ OnlyTold last ∧
      (AnyForeign inner ∨ AnyForeign leave → ∃ e, o = .failed e) ∧
      (plan.context.config.run.Tellable →
        ∃ s : RunState W, s.isOver = true ∧ s.Stands (inner.map Call.event)) := by
  obtain ⟨w₁, begun, first⟩ : ∃ v, tell (reporter.started plan.pools) w = (.done (), v) ∧
      Path (Call.Made (plan.setting registry reporter) plan.pools) w [⟨.told, false⟩] v :=
    path_tell (told.started plan.pools) (.started plan.pools) w
  obtain ⟨reachable, ended⟩ := courses w₁
  obtain ⟨inner, path, remembers, stands⟩ := reachable.calls calm told
  have run : plan.afterEntering course registry reporter rules started depth w = _ :=
    Action.andThen_of_done begun
  generalize course (RunState.ofPlans w₁ (plan.setting registry reporter).retry.total plan.pools) = s
    at ended path remembers stands run
  obtain ⟨o, v, leave, last, finished, further, leaving, only, failing⟩ := calls_finish calm told built
    within (plan.result (results s.outcomes) started (Hosted.now s.common.world) s.common.budget.used)
    (failure? s.outcomes) s.common.world
  refine ⟨o, v, inner, leave, last, run.trans finished, (first.append path).append further, leaving,
    only, fun foreign => failing (foreign.imp_left fun changed => ?_),
    fun tellable => ⟨s, ended, stands tellable⟩⟩
  exact remembers.isSome_failure? ended changed

omit [Hosted W] in
/-- What is called around and in a run is bracketed if what is called in it is. -/
theorem bracketed_of_run {depth : Nat} {full : Bool} {inner last : List Event}
    (around : ∀ e ∈ inner, e.isOf .run = false) (none : full = false → inner = [])
    (bracketed : ∀ place, place ≠ .run → Bracketed place inner)
    (told : ∀ place, Untouched place last) (place : Place) :
    Bracketed place (Place.run.events (Pipeline.entering depth full) ++ inner ++
      Place.run.events (Pipeline.leaving depth) ++ last) := by
  refine Bracketed.after ?_ (told place)
  by_cases whole : place = .run
  · subst whole
    have opened : Opened .run depth full (Place.run.events (Pipeline.entering depth full)) :=
      Untouched.nil.enter
    have still : Opened .run depth full
        (Place.run.events (Pipeline.entering depth full) ++ inner) := by
      cases full with
      | true => exact opened.call around
      | false =>
        rw [none rfl, List.append_nil]
        exact opened
    exact still.leave
  · have outside (acts : List (Nat × Act)) : Untouched place (Place.run.events acts) :=
      untouched_events (Place.not_isWithin_of_level (by cases place <;> simp_all))
    exact ((outside _).before (bracketed place whole)).after (outside _)

/-- **What an execution calls.** If something of another identity is given it fails; and all that it
calls is bracketed at every place, unless a wait or a limit cannot be told. -/
theorem exists_calls (calm : registry.IsCalm) (told : reporter.IsCalm)
    (courses : IsCourse (plan.setting registry reporter) plan.pools course) (w : W) :
    ∃ o v calls, plan.executeBy course registry reporter w = (o, v) ∧
      Path (Call.Made (plan.setting registry reporter) plan.pools) w calls v ∧
      (AnyForeign calls → ∃ e, o = .failed e) ∧
      (plan.context.config.run.Tellable → ∀ place, Bracketed place (calls.map Call.event)) := by
  cases built : registry.rulesOfRun plan.context with
  | failed e =>
    have eq : plan.executeBy course registry reporter w = (.failed (.config e), w) := by
      simp only [executeBy, bind, Action.andThen, configured, Action.ofOutcome, built, Hosted.clock,
        Outcome.mapError]
    exact ⟨_, w, [], eq, .nil, not_anyForeign_nil.elim, fun _ place => Untouched.nil.bracketed⟩
  | panicked m =>
    have eq : plan.executeBy course registry reporter w = (.panicked m, w) := by
      simp only [executeBy, bind, Action.andThen, configured, Action.ofOutcome, built, Hosted.clock,
        Outcome.mapError]
    exact ⟨_, w, [], eq, .nil, not_anyForeign_nil.elim, fun _ place => Untouched.nil.bracketed⟩
  | done rules =>
    have calmRules : ∀ rule ∈ rules, rule.IsCalm := calm.run _ rules built
    have hosts : Place.run.Hosts (plan.setting registry reporter) plan.pools ⟨.run, rules⟩
        plan.context := fun call w v called => .ofRun built called
    obtain ⟨entered, v, before, enter, within, path, entering, native⟩ :=
      Place.path_enter hosts calmRules w
    have eq := executeBy_eq plan course reporter built enter
    cases failure : entered.failure with
    | some e =>
      rw [failure] at eq entering
      obtain ⟨o, u, leave, last, finished, further, leaving, told, failing⟩ := calls_finish calm told
        built within (plan.result [] (Hosted.now w) (Hosted.now v) 0) (some (.pipeline e)) v
      refine ⟨o, u, _, eq.trans finished, path.append further, fun _ => failing (.inl rfl),
        fun _ place => ?_⟩
      have nothing : ∀ e ∈ ([] : List Event), e.isOf .run = false := List.forall_mem_nil _
      have closed : Bracketed place (Place.run.events (Pipeline.entering entered.depth false) ++ [] ++
          Place.run.events (Pipeline.leaving entered.depth) ++ last.map Call.event) :=
        bracketed_of_run nothing (fun _ => rfl) (fun _ _ => Untouched.nil.bracketed)
          (fun _ => told.untouched) place
      rw [List.append_nil, List.append_assoc] at closed
      rw [List.map_append, List.map_append, entering, leaving]
      exact closed
    | none =>
      rw [failure] at eq entering
      obtain ⟨o, u, inner, leave, last, run, further, leaving, told, changed, ended⟩ :=
        calls_afterEntering calm told courses built within (Hosted.now w) v
      refine ⟨o, u, _, eq.trans run, path.append further, fun foreign => changed ?_,
        fun tellable place => ?_⟩
      · have first : ¬ AnyForeign [⟨.told, false⟩] := by simp [AnyForeign]
        simpa only [anyForeign_append, native, first, told.not_anyForeign, false_or, or_false]
          using foreign
      · obtain ⟨s, ended, stands⟩ := ended tellable
        have outside (place : Place) : Untouched place [.told] := List.forall_mem_singleton.2 rfl
        have around : ∀ e ∈ [.told] ++ inner.map Call.event, e.isOf .run = false :=
          List.forall_mem_append.2 ⟨List.forall_mem_singleton.2 rfl, stands.inner⟩
        have events : (before ++ ([(⟨.told, false⟩ : Call)] ++ inner ++ (leave ++ last))).map Call.event =
            Place.run.events (Pipeline.entering entered.depth true) ++ ([.told] ++ inner.map Call.event) ++
              Place.run.events (Pipeline.leaving entered.depth) ++ last.map Call.event := by
          simp only [List.map_append, entering, leaving, List.append_assoc]
          rfl
        rw [events]
        exact bracketed_of_run around (by simp)
          (fun place within => (outside place).before (stands.bracketed ended within))
          (fun place => told.untouched) place

end RunPlan

/-! ## Brackets -/

/-- **Whatever scope is entered is left.** However an execution ends, and whatever course its pools take,
what it does to the world is done by calls that are bracketed at every place. Where the world keeps a
record to which every call adds what is noted of it, the record has the notes of these calls at the end,
in order. -/
theorem rules_bracketed {plan : RunPlan W} {course : RunState W → RunState W} {registry : Registry W}
    {reporter : Reporter W} (calm : registry.IsCalm) (told : reporter.IsCalm)
    (courses : RunPlan.IsCourse (plan.setting registry reporter) plan.pools course)
    (tellable : plan.context.config.run.Tellable) (w : W) :
    ∃ calls, Path (Call.Made (plan.setting registry reporter) plan.pools) w calls
        (plan.executeBy course registry reporter w).2 ∧
      (∀ place, Bracketed place (calls.map Call.event)) ∧
      ∀ (α : Type) (record : W → List α) (note : Call → List α),
        (∀ call v v', Call.Made (plan.setting registry reporter) plan.pools call v v' →
          record v' = record v ++ note call) →
        record (plan.executeBy course registry reporter w).2 = record w ++ calls.flatMap note := by
  obtain ⟨o, v, calls, eq, path, -, bracketed⟩ := RunPlan.exists_calls calm told courses w
  rw [eq]
  exact ⟨calls, path, bracketed tellable, fun _ record note recorded => path.recorded record note recorded⟩

/-! ## A wait that cannot be told -/

namespace Sample

/-- Prints when a device is begun and when it is left. -/
def announcing : Rule Host DeviceContext DeviceSummary where
  name := "announcing"
  before _ := .change (·.print "begun")
  after _ summary := (Action.change (·.print "left")).andThen fun _ => .give summary

/-- One device, one test and one rule; workers wait for so many seconds. -/
def announced (pollTimeoutSecs : Nat) : RunPlan Host where
  context :=
    ⟨default,
      { config with run := { pollTimeoutSecs }, rules := { device := [⟨"sample.announcing", none, []⟩] } },
      "", default⟩
  backends := []
  pools := [⟨⟨⟨"sample"⟩, [device "a"]⟩, [item]⟩]

/-- The registry of the rule. -/
def announcer : Registry Host :=
  Registry.empty.withDeviceRule "sample.announcing" fun _ _ => .done [announcing]

/-- What is printed when something is called. -/
def printedAt : Event → Option String
  | .rule (.device ..) _ .entered => some "begun\n"
  | .rule (.device ..) _ .left => some "left\n"
  | _ => none

/-- What a call prints. -/
def printing (call : Call) : List String := (printedAt call.event).toList

theorem isCalm_announcer : announcer.IsCalm := by
  refine Registry.isCalm_of_factories nofun nofun ?_ nofun
  intro factory known ctx e rules built rule hr
  obtain rfl := List.mem_singleton.1 known
  cases built
  obtain rfl := List.mem_singleton.1 hr
  exact ⟨fun _ => nofun, fun _ _ => nofun⟩

theorem isCalm_silent : (Reporter.silent : Reporter Host).IsCalm :=
  ⟨fun _ => nofun, fun _ => nofun, fun _ => nofun⟩

theorem printed_of_made {seconds : Nat} {call : Call} {w v : Host}
    (made : Call.Made ((announced seconds).setting announcer .silent) (announced seconds).pools call w v) :
    v.printed = printing call ++ w.printed := by
  cases made with
  | ofRun built called =>
    cases built
    cases called <;> contradiction
  | ofPool planned built called =>
    cases built
    cases called <;> contradiction
  | ofDevice planned listed built called =>
    cases built
    cases called with
    | entered at_k done =>
      obtain rfl := List.mem_singleton.1 (List.mem_of_getElem? at_k)
      cases done
      rfl
    | refused at_k failed =>
      obtain rfl := List.mem_singleton.1 (List.mem_of_getElem? at_k)
      cases failed
    | left at_k =>
      obtain rfl := List.mem_singleton.1 (List.mem_of_getElem? at_k)
      rfl
  | ofAttempt planned listed own called =>
    subst own
    obtain ⟨rfl, -⟩ := called.of_timingRule
    rfl
  | ofBackend planned listed own known => cases known
  | ofReporter told => cases told <;> rfl

theorem recorded_of_made {seconds : Nat} {call : Call} {w v : Host}
    (made : Call.Made ((announced seconds).setting announcer .silent) (announced seconds).pools call w v) :
    v.printed.reverse = w.printed.reverse ++ printing call := by
  rw [printed_of_made made, List.reverse_append, printing]
  cases printedAt call.event <;> rfl

theorem mem_printing_iff {calls : List Call} {text : String} :
    text ∈ calls.flatMap printing ↔ ∃ e ∈ calls.map Call.event, printedAt e = some text := by
  simp [printing]

theorem printedAt_begun {e : Event} (begun : printedAt e = some "begun\n") :
    ∃ i j k, e = .rule (.device i j) k .entered := by
  unfold printedAt at begun
  split at begun
  · exact ⟨_, _, _, rfl⟩
  · simp at begun
  · cases begun

end Sample

open Sample in
/-- The rule is called after the device as well as before it, and what was printed is what the calls
print. -/
theorem bracketed_of_announced : ∃ calls,
    Path (Call.Made ((announced 10).setting announcer .silent) (announced 10).pools) default calls
        ((announced 10).execute announcer .silent default).2 ∧
      (∀ place, Bracketed place (calls.map Call.event)) ∧
      ((announced 10).execute announcer .silent default).2.printed.reverse = calls.flatMap printing ∧
      ∃ i j k, .rule (.device i j) k .left ∈ calls.map Call.event := by
  have printed : "begun\n" ∈ ((announced 10).execute announcer .silent default).2.printed.reverse := by
    decide +kernel
  rw [RunPlan.execute_eq] at printed ⊢
  obtain ⟨calls, path, bracketed, records⟩ := rules_bracketed isCalm_announcer isCalm_silent
    (RunPlan.isCourse_play _ (announced 10).pools) ⟨by decide, by decide⟩ default
  have recorded := records String (fun w => w.printed.reverse) printing fun _ _ _ => recorded_of_made
  obtain ⟨e, he, begun⟩ := mem_printing_iff.1 (recorded ▸ printed)
  obtain ⟨i, j, k, rfl⟩ := printedAt_begun begun
  exact ⟨calls, path, bracketed, recorded, i, j, k, ((bracketed (.device i j)).left_iff_entered k).2 he⟩

open Sample in
/-- Where workers wait past the end of the clock a device whose rule was entered is given up by a panic,
and what the rule does after it is never called. -/
theorem unbracketed_of_announced : announcer.IsCalm ∧ (Reporter.silent : Reporter Host).IsCalm ∧
    ¬ ∃ calls,
      Path (Call.Made ((announced 9223372036854775807).setting announcer .silent)
        (announced 9223372036854775807).pools) default calls
        ((announced 9223372036854775807).execute announcer .silent default).2 ∧
      ∀ place, Bracketed place (calls.map Call.event) := by
  have printed : ((announced 9223372036854775807).execute announcer .silent default).2.printed =
      ["begun\n"] := by decide +kernel
  refine ⟨isCalm_announcer, isCalm_silent, fun ⟨calls, path, bracketed⟩ => ?_⟩
  have recorded := path.recorded (fun w => w.printed.reverse) printing fun _ _ _ => recorded_of_made
  rw [printed] at recorded
  have recorded : calls.flatMap printing = ["begun\n"] := recorded.symm
  have first : "begun\n" ∈ calls.flatMap printing := recorded ▸ List.mem_cons_self
  obtain ⟨e, he, begun⟩ := mem_printing_iff.1 first
  obtain ⟨i, j, k, rfl⟩ := printedAt_begun begun
  have left := mem_printing_iff.2 ⟨_, ((bracketed (.device i j)).left_iff_entered k).2 he, rfl⟩
  simp [recorded] at left

end TestFleet
