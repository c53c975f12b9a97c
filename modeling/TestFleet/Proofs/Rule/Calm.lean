import TestFleet.Proofs.Plugin.Registry
import TestFleet.Proofs.Rule.Pipeline
/-!
# What does not panic

A scope whose rules do not panic is entered and unwound without a panic, whatever the rules answer
(`Pipeline.isCalm_enter`, `Pipeline.isCalm_unwind`). An attempt between such rules does not panic
either: what its backend does is contained, and only a limit that is too long to be told is left
(`AttemptContext.isCalm_run`).
-/
namespace TestFleet

/-- The action does not panic, whatever world it acts on. -/
def Action.IsCalm {W ε α : Type} (x : Action W ε α) : Prop := ∀ w m, (x w).1 ≠ .panicked m

namespace Action

variable {W ε ε' α β : Type} {x : Action W ε α} {f : α → Action W ε β}

theorem isCalm_give (a : α) : (give a : Action W ε α).IsCalm := nofun

theorem isCalm_fail (e : ε) : (fail e : Action W ε α).IsCalm := nofun

/-- An action that does not panic is done or fails. -/
theorem IsCalm.done_or_failed (calm : x.IsCalm) (w : W) :
    ∃ v, (∃ a, x w = (.done a, v)) ∨ ∃ e, x w = (.failed e, v) := by
  rcases ended : x w with ⟨o, v⟩
  refine ⟨v, ?_⟩
  cases o with
  | done a => exact .inl ⟨a, rfl⟩
  | failed e => exact .inr ⟨e, rfl⟩
  | panicked m => exact absurd (congrArg Prod.fst ended) (calm w m)

/-- One action and then another, of which the second need be calm only after what the first can
give. -/
theorem IsCalm.andThen (calm : x.IsCalm)
    (next : ∀ a w v, x w = (.done a, v) → (f a).IsCalm) : (x.andThen f).IsCalm := by
  intro w m
  unfold Action.andThen
  obtain ⟨v, ⟨a, done⟩ | ⟨e, failed⟩⟩ := calm.done_or_failed w
  · rw [done]
    exact next a w v done v m
  · rw [failed]
    nofun

theorem IsCalm.mapError (calm : x.IsCalm) (f : ε → ε') : (x.mapError f).IsCalm := by
  intro w m
  unfold Action.mapError
  obtain ⟨v, ⟨a, done⟩ | ⟨e, failed⟩⟩ := calm.done_or_failed w
  · rw [done]
    nofun
  · rw [failed]
    nofun

theorem IsCalm.attempt (calm : x.IsCalm) : (x.attempt : Action W ε' (Except ε α)).IsCalm := by
  intro w m
  unfold Action.attempt
  obtain ⟨v, ⟨a, done⟩ | ⟨e, failed⟩⟩ := calm.done_or_failed w
  · rw [done]
    nofun
  · rw [failed]
    nofun

end Action

/-- The rule does not panic, neither before its scope nor after it. -/
structure Rule.IsCalm {W C R : Type} (rule : Rule W C R) : Prop where
  before : ∀ ctx, (rule.before ctx).IsCalm
  after : ∀ ctx r, (rule.after ctx r).IsCalm

/-- No rule that the registry builds panics, whatever it is built for. Building it may. -/
structure Registry.IsCalm {W : Type} (registry : Registry W) : Prop where
  run : ∀ ctx rules, registry.rulesOfRun ctx = .done rules → ∀ rule ∈ rules, rule.IsCalm
  pool : ∀ ctx rules, registry.rulesOfPool ctx = .done rules → ∀ rule ∈ rules, rule.IsCalm
  device : ∀ ctx rules, registry.rulesOfDevice ctx = .done rules → ∀ rule ∈ rules, rule.IsCalm
  attempt : ∀ ctx rules, registry.rulesOfAttempt ctx = .done rules → ∀ rule ∈ rules, rule.IsCalm

/-- No rule that the factory builds panics. -/
def RuleFactory.IsCalm {W C R : Type} (make : RuleFactory W C R) : Prop :=
  ∀ ctx e rules, make ctx e = .done rules → ∀ rule ∈ rules, rule.IsCalm

/-- A registry is calm whose factories are. -/
theorem Registry.isCalm_of_factories {W : Type} {registry : Registry W}
    (run : ∀ factory ∈ registry.runRules, RuleFactory.IsCalm factory.2)
    (pool : ∀ factory ∈ registry.poolRules, RuleFactory.IsCalm factory.2)
    (device : ∀ factory ∈ registry.deviceRules, RuleFactory.IsCalm factory.2)
    (attempt : ∀ factory ∈ registry.attemptRules, RuleFactory.IsCalm factory.2) :
    registry.IsCalm := by
  constructor
  all_goals
    intro ctx rules built rule hr
    obtain ⟨factory, known, e, part, made, hr⟩ := Registry.exists_of_mem_buildAll built hr
  case run => exact run factory known ctx e part made rule hr
  case pool => exact pool factory known ctx e part made rule hr
  case device => exact device factory known ctx e part made rule hr
  case attempt => exact attempt factory known ctx e part made rule hr

namespace Pipeline

variable {W C R : Type} {scope : Scope} {ctx : C} {rules : List (Rule W C R)}
  {p : Pipeline W C R} {carried : R} {depth : Nat}

theorem isCalm_enterFrom (calm : ∀ rule ∈ rules, rule.IsCalm) :
    (enterFrom scope ctx depth rules).IsCalm := by
  induction rules generalizing depth with
  | nil => exact Action.isCalm_give _
  | cons rule rest ih =>
    intro w m
    unfold enterFrom
    obtain ⟨v, ⟨_, done⟩ | ⟨e, failed⟩⟩ :=
      ((calm rule List.mem_cons_self).before ctx).done_or_failed w
    · rw [done]
      exact ih (fun rule hr => calm rule (List.mem_cons_of_mem _ hr)) v m
    · rw [failed]
      nofun

theorem isCalm_enter (calm : ∀ rule ∈ p.rules, rule.IsCalm) : (p.enter ctx).IsCalm :=
  isCalm_enterFrom calm

variable [Carried R]

theorem isCalm_unwindRule {rule : Rule W C R} {so : Unwinding R} (calm : rule.IsCalm) :
    (unwindRule scope ctx rule so).IsCalm := by
  intro w m
  unfold unwindRule
  obtain ⟨v, ⟨r, done⟩ | ⟨e, failed⟩⟩ := (calm.after ctx so.carried).done_or_failed w
  · rw [done]
    dsimp only
    split <;> nofun
  · rw [failed]
    nofun

theorem isCalm_unwindAll {so : Unwinding R} (calm : ∀ rule ∈ rules, rule.IsCalm) :
    (unwindAll scope ctx rules so).IsCalm := by
  induction rules generalizing so with
  | nil => exact Action.isCalm_give so
  | cons rule rest ih =>
    refine (isCalm_unwindRule (calm rule List.mem_cons_self)).andThen fun next _ _ _ => ?_
    exact ih fun rule hr => calm rule (List.mem_cons_of_mem _ hr)

theorem isCalm_unwind (calm : ∀ rule ∈ p.rules, rule.IsCalm) :
    (p.unwind ctx carried depth).IsCalm := by
  have entered : ∀ rule ∈ (p.rules.take depth).reverse, rule.IsCalm := fun rule hr =>
    calm rule (List.mem_of_mem_take (List.mem_reverse.1 hr))
  refine (isCalm_unwindAll entered).andThen fun so _ _ _ => ?_
  cases so.violation with
  | some e => exact Action.isCalm_fail e
  | none => exact Action.isCalm_give so.carried

theorem isCalm_release {ε : Type} (calm : ∀ rule ∈ p.rules, rule.IsCalm) :
    (p.release ctx carried depth : Action W ε Unit).IsCalm := by
  intro w m
  have calm : (p.unwind ctx carried depth).IsCalm := isCalm_unwind calm
  unfold release
  obtain ⟨v, ⟨r, done⟩ | ⟨e, failed⟩⟩ := calm.done_or_failed w
  · rw [done]
    nofun
  · rw [failed]
    nofun

end Pipeline

theorem isCalm_timingRule {W : Type} [Hosted W] (started : Time.Moment) :
    (timingRule started : Rule W AttemptContext TestResult).IsCalm where
  before _ := Action.isCalm_give ()
  after _ r := by
    have clock : (Hosted.clock : Action W Reason Time.Moment).IsCalm := nofun
    exact clock.andThen fun now _ _ _ => Action.isCalm_give _

/-- How long backends may take to answer. -/
def RunSettings.answerLimit (s : RunSettings) : Time.Span :=
  s.outputTimeout + s.listenerGrace + .ofSeconds 5

/-- Nothing in the setting panics but backends: no rule, no building of an attempt's rules, no report
of a result; and the limit for backends can be told. -/
structure Setting.IsCalm {W : Type} (setting : Setting W) : Prop where
  rules : setting.registry.IsCalm
  built : ∀ ctx m, setting.registry.rulesOfAttempt ctx ≠ .panicked m
  told : ∀ result, (setting.reporter.tested result).IsCalm
  limit : setting.context.config.run.answerLimit.overflows = false

namespace AttemptContext

variable {W : Type} [Hosted W] {ctx : AttemptContext} {registry : Registry W}
  {backends : List (Backend W)}

/-- A backend may panic: an attempt contains that. -/
theorem isCalm_execute (fits : ctx.answerLimit.overflows = false) :
    (ctx.execute backends).IsCalm := by
  intro w m panicked
  rcases ran : ctx.execute backends w with ⟨o, v⟩
  obtain rfl : o = .panicked m := (congrArg Prod.fst ran).symm.trans panicked
  cases executed_of_execute ran with
  | overlong overflow =>
    rw [fits] at overflow
    cases overflow

theorem isCalm_result {setup : Option ConfigError} {entered : Entered} {started : Time.Moment}
    (fits : ctx.answerLimit.overflows = false) :
    (ctx.result backends setup entered started).IsCalm := by
  intro w m
  unfold result
  split
  · nofun
  · nofun
  · exact isCalm_execute fits w m

/-- The rules that stand around an attempt do not panic. -/
theorem isCalm_of_pipeline {p : Pipeline W AttemptContext TestResult} {setup : Option ConfigError}
    {w v : W} (calm : registry.IsCalm)
    (built : ctx.pipeline registry w = (.done (p, setup), v)) : ∀ rule ∈ p.rules, rule.IsCalm := by
  unfold pipeline at built
  dsimp only at built
  split at built
  · rename_i rules configured
    cases built
    exact List.forall_mem_cons.2 ⟨isCalm_timingRule _, calm.attempt ctx rules configured⟩
  · cases built
    exact List.forall_mem_singleton.2 (isCalm_timingRule _)
  · cases built

/-- An attempt of a run in which nothing panics but backends does not panic. -/
theorem isCalm_run {setting : Setting W} (calm : setting.IsCalm)
    (inRun : ctx.onDevice.inPool.run = setting.context) : (ctx.run setting).IsCalm := by
  have pipeline : (ctx.pipeline setting.registry).IsCalm := by
    intro w m
    unfold AttemptContext.pipeline
    dsimp only
    split
    · nofun
    · nofun
    · rename_i panicked
      exact absurd panicked (calm.built ctx _)
  have fits : ctx.answerLimit.overflows = false := by
    have limit := calm.limit
    rwa [← inRun] at limit
  refine pipeline.andThen fun (p, setup) w v around => ?_
  have calm := isCalm_of_pipeline calm.rules around
  have clock : (Hosted.clock : Action W PipelineError Time.Moment).IsCalm := nofun
  refine clock.andThen fun started _ _ _ => ?_
  refine (Pipeline.isCalm_enter calm).andThen fun entered _ _ _ => ?_
  refine (isCalm_result fits).attempt.andThen fun found _ _ _ => ?_
  cases found with
  | ok r => exact Pipeline.isCalm_unwind calm
  | error e =>
    intro w m
    exact (Pipeline.isCalm_release calm).andThen (fun _ _ _ _ => Action.isCalm_fail e) w m

end AttemptContext

end TestFleet
