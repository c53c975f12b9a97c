import TestFleet.Plugin.Builtin
import TestFleet.Proofs.Plugin.Registry
import TestFleet.Proofs.Rule.Preserving
/-!
# Rules that do not write UNKNOWN

A result is settled before the first rule sees it, so it comes out of rules that do not write UNKNOWN
with a status that says how the test ended (`unwind_isKnown`, `AttemptContext.isKnown_of_run`). No
built-in rule writes UNKNOWN (`Registry.keepsStatuses_builtin`).
-/
namespace TestFleet

variable {W : Type}

/-- The status says how the test ended. -/
def TestResult.IsKnown (r : TestResult) : Prop := r.status ≠ .unknown

/-- The statuses of all final results say how the tests ended. -/
def PoolResult.IsKnown (p : PoolResult) : Prop := ∀ r ∈ p.results, r.IsKnown

/-- The statuses of all final results say how the tests ended. -/
def RunResult.IsKnown (r : RunResult) : Prop := ∀ p ∈ r.pools, p.IsKnown

/-- No rule of an attempt, a pool or the run writes UNKNOWN. -/
structure Registry.KeepsStatuses (registry : Registry W) : Prop where
  attempt : ∀ ctx rules, registry.rulesOfAttempt ctx = .done rules →
    ∀ rule ∈ rules, rule.Keeps ctx TestResult.IsKnown
  pool : ∀ ctx rules, registry.rulesOfPool ctx = .done rules →
    ∀ rule ∈ rules, rule.Keeps ctx PoolResult.IsKnown
  run : ∀ ctx rules, registry.rulesOfRun ctx = .done rules →
    ∀ rule ∈ rules, rule.Keeps ctx RunResult.IsKnown

/-- A rule that annotates something else than the status does not write UNKNOWN. -/
theorem Rule.Preserves.isKnown {ctx : AttemptContext} {rule : Rule W AttemptContext TestResult}
    (preserves : rule.Preserves ctx TestResult.status) : rule.Keeps ctx TestResult.IsKnown := by
  intro given w found w' known done _
  unfold TestResult.IsKnown
  rw [(preserves given w found w' done).2]
  exact known

/-! ## Attempts -/

/-- Rules that do not write UNKNOWN are unwound to a known status, whatever was carried in. -/
theorem unwind_isKnown {p : Pipeline W AttemptContext TestResult} {ctx : AttemptContext}
    {carried r : TestResult} {depth : Nat} {w w' : W}
    (keeps : ∀ rule ∈ p.rules.take depth, rule.Keeps ctx TestResult.IsKnown)
    (h : p.unwind ctx carried depth w = (.done r, w')) : r.IsKnown :=
  Pipeline.keeps_unwind keeps carried.settle_status_ne_unknown h

section Builtin

variable [Hosted W]

theorem keeps_timingRule (ctx : AttemptContext) (started : Time.Moment) :
    (timingRule started : Rule W AttemptContext TestResult).Keeps ctx TestResult.IsKnown :=
  (isTransparent_timingRule ctx started).preserves.isKnown

namespace AttemptContext

variable {ctx : AttemptContext} {setting : Setting W} {w w' : W}

/-- The rules that stand around an attempt do not write UNKNOWN. -/
theorem keeps_of_pipeline {p : Pipeline W AttemptContext TestResult} {setup : Option ConfigError}
    (keeps : setting.registry.KeepsStatuses)
    (built : ctx.pipeline setting.registry w = (.done (p, setup), w')) :
    ∀ rule ∈ p.rules, rule.Keeps ctx TestResult.IsKnown := by
  unfold pipeline at built
  dsimp only at built
  split at built
  · rename_i rules configured
    cases built
    exact List.forall_mem_cons.2 ⟨keeps_timingRule ctx _, keeps.attempt ctx rules configured⟩
  · cases built
    exact List.forall_mem_singleton.2 (keeps_timingRule ctx _)
  · cases built

/-- An attempt ends with a status that says how the test ended. -/
theorem isKnown_of_run {r : TestResult} (keeps : setting.registry.KeepsStatuses)
    (h : ctx.run setting w = (.done r, w')) : r.IsKnown := by
  obtain ⟨⟨pipeline, setup⟩, v₁, built, h⟩ := Action.bind_eq_done_iff.1 h
  obtain ⟨started, v₂, -, h⟩ := Action.bind_eq_done_iff.1 h
  obtain ⟨entered, v₃, -, h⟩ := Action.bind_eq_done_iff.1 h
  obtain ⟨found, v₄, -, h⟩ := Action.bind_eq_done_iff.1 h
  cases found with
  | ok found =>
    have kept := keeps_of_pipeline keeps built
    exact unwind_isKnown (fun rule hr => kept rule (List.mem_of_mem_take hr)) h
  | error e =>
    obtain ⟨-, v, -, failed⟩ := Action.andThen_eq_done_iff.1 h
    cases failed

end AttemptContext

/-! ## Built-in rules -/

theorem keeps_captureTraceRule (ctx : AttemptContext) (fileName : String) :
    (captureTraceRule fileName : Rule W AttemptContext TestResult).Keeps ctx TestResult.IsKnown :=
  (isTransparent_captureTraceRule ctx fileName).preserves.isKnown

omit [Hosted W] in
theorem keeps_tagRetryRule (ctx : AttemptContext) :
    (tagRetryRule : Rule W AttemptContext TestResult).Keeps ctx TestResult.IsKnown :=
  (isTransparent_tagRetryRule ctx).preserves.isKnown

/-- A hook carries on what it is handed. -/
theorem keeps_hook {C R : Type} [Placeholders C] [Carried R] (h : Hook) (ctx : C) (P : R → Prop) :
    (h.rule : Rule W C R).Keeps ctx P := by
  intro given w found w' holds done _
  obtain ⟨_, v, -, same⟩ := Action.andThen_eq_done_iff.1 done
  cases same
  exact holds

/-- What is built by the factory of hooks is a hook. -/
theorem keeps_hookFactory {C R : Type} [Placeholders C] [Carried R] {ctx : C} {e : PluginEntry}
    {rules : List (Rule W C R)} (built : Registry.hookFactory ctx e = .done rules) (P : R → Prop) :
    ∀ rule ∈ rules, rule.Keeps ctx P := by
  intro rule hr
  obtain ⟨hook, -, rfl⟩ := map_eq_ok_iff.1 (Outcome.ofExcept_eq_done_iff.1 built)
  obtain rfl := List.mem_singleton.1 hr
  exact keeps_hook hook ctx P

/-- No built-in rule writes UNKNOWN. -/
theorem Registry.keepsStatuses_builtin (seed : UInt64) :
    (Registry.builtin seed : Registry W).KeepsStatuses := by
  constructor
  all_goals
    intro ctx rules built rule hr
    obtain ⟨factory, known, e, part, made, hr⟩ := Registry.exists_of_mem_buildAll built hr
    simp only [Registry.builtin, List.mem_cons, List.not_mem_nil, or_false] at known
  case attempt =>
    rcases known with rfl | rfl | rfl
    · exact keeps_hookFactory made _ rule hr
    · obtain ⟨capture, read, rfl⟩ := map_eq_ok_iff.1 (Outcome.ofExcept_eq_done_iff.1 made)
      obtain rfl := List.mem_singleton.1 hr
      obtain ⟨fileName, -, pure⟩ := bind_eq_ok_iff.1 read
      cases pure
      exact keeps_captureTraceRule ctx fileName
    · cases made
      obtain rfl := List.mem_singleton.1 hr
      exact keeps_tagRetryRule ctx
  case pool =>
    subst known
    exact keeps_hookFactory made _ rule hr
  case run =>
    subst known
    exact keeps_hookFactory made _ rule hr

end Builtin

end TestFleet
