import TestFleet.Proofs.Rule.Calm
import TestFleet.Proofs.Rule.Unwinding
/-!
# Rules that leave a view as it is

Rules may annotate what is carried through them. A rule preserves a view of what it is handed, such as
the status of a result, if the view of what it gives is the same, and so is the identity
(`Rule.Preserves`). A scope whose rules neither panic nor change the view is left with a value, of the
same identity and the same view as the value that was carried in (`Pipeline.exists_unwind`); and a scope
whose rules are all passed on the way in is fully entered (`Pipeline.exists_enter`). Where no rules are
configured nothing stands in the way of an attempt and nothing changes its status
(`Setting.isTransparent_of_unruled`), and the built-in rules that keep traces and mark retries do not
either.
-/
namespace TestFleet

namespace Rule

variable {W C R α : Type}

/-- The rule is always entered. -/
def Admits (ctx : C) (rule : Rule W C R) : Prop := ∀ w, ∃ w', rule.before ctx w = (.done (), w')

/-- What the rule gives has the identity of what it is handed, and looks the same. -/
def Preserves [Carried R] (ctx : C) (view : R → α) (rule : Rule W C R) : Prop :=
  ∀ given w found w', rule.after ctx given w = (.done found, w') →
    Carried.identity found = Carried.identity given ∧ view found = view given

/-- What the rule gives is what it is handed. -/
def ReturnsUnchanged (ctx : C) (rule : Rule W C R) : Prop :=
  ∀ given w found w', rule.after ctx given w = (.done found, w') → found = given

/-- A rule that preserves all of a value preserves every view of it. -/
theorem ReturnsUnchanged.preserves [Carried R] {ctx : C} {rule : Rule W C R}
    (unchanged : rule.ReturnsUnchanged ctx) (view : R → α) : rule.Preserves ctx view := by
  intro given w found w' done
  rw [unchanged given w found w' done]
  exact ⟨rfl, rfl⟩

/-- The rule is passed on the way in, and on the way out it preserves a view of what is carried. -/
structure IsTransparent [Carried R] (ctx : C) (view : R → α) (rule : Rule W C R) : Prop where
  calm : rule.IsCalm
  admits : rule.Admits ctx
  preserves : rule.Preserves ctx view

end Rule

namespace Pipeline

variable {W C R α : Type} {scope : Scope} {ctx : C} {p : Pipeline W C R}

theorem exists_enterFrom {rules : List (Rule W C R)} (admits : ∀ rule ∈ rules, rule.Admits ctx)
    (depth : Nat) (w : W) :
    ∃ w', enterFrom scope ctx depth rules w = (.done ⟨depth + rules.length, none⟩, w') := by
  induction rules generalizing depth w with
  | nil => exact ⟨w, rfl⟩
  | cons rule rest ih =>
    obtain ⟨v, entered⟩ := admits rule List.mem_cons_self w
    obtain ⟨u, others⟩ := ih (fun rule hr => admits rule (List.mem_cons_of_mem _ hr)) (depth + 1) v
    refine ⟨u, ?_⟩
    unfold enterFrom
    simp only [entered]
    rw [others, List.length_cons, Nat.add_assoc, Nat.add_comm 1]

/-- A scope whose rules are always entered is fully entered. -/
theorem exists_enter (admits : ∀ rule ∈ p.rules, rule.Admits ctx) (w : W) :
    ∃ w', p.enter ctx w = (.done ⟨p.rules.length, none⟩, w') := by
  have entered : ∃ w', p.enter ctx w = (.done ⟨0 + p.rules.length, none⟩, w') :=
    exists_enterFrom admits 0 w
  rwa [Nat.zero_add] at entered

variable [Carried R] {view : R → α}

/-- **A scope whose rules preserve a view is left with that view.** -/
theorem exists_unwind (calm : ∀ rule ∈ p.rules, rule.IsCalm)
    (preserve : ∀ rule ∈ p.rules, rule.Preserves ctx view) (carried : R) (depth : Nat) (w : W) :
    ∃ r w', p.unwind ctx carried depth w = (.done r, w') ∧
      Carried.identity r = Carried.identity carried ∧ view r = view (Carried.settle carried) := by
  obtain ⟨v, ⟨r, done⟩ | ⟨e, failed⟩⟩ := (isCalm_unwind calm).done_or_failed w
  · refine ⟨r, v, done, identity_of_unwind done, ?_⟩
    refine keeps_unwind (P := fun r => view r = view (Carried.settle carried)) ?_ rfl done
    intro rule hr given w found w' same done _
    exact (preserve rule (List.mem_of_mem_take hr) given w found w' done).2.trans same
  · obtain ⟨rule, hr, given, u, found, u', done, other, -⟩ := violates_of_unwind failed
    exact absurd (preserve rule hr given u found u' done).1 other

/-- A scope whose rules change nothing is left with what was carried in. -/
theorem exists_unwind_of_unchanged (calm : ∀ rule ∈ p.rules, rule.IsCalm)
    (unchanged : ∀ rule ∈ p.rules, rule.ReturnsUnchanged ctx) (carried : R) (depth : Nat) (w : W) :
    ∃ w', p.unwind ctx carried depth w = (.done (Carried.settle carried), w') := by
  obtain ⟨r, w', left, -, same⟩ :=
    exists_unwind calm (fun rule hr => (unchanged rule hr).preserves id) carried depth w
  obtain rfl : r = Carried.settle carried := same
  exact ⟨w', left⟩

end Pipeline

/-! ## Settings -/

/-- In every scope of the setting but the run itself the rules can be built and are transparent: pools
keep their results, devices theirs, and attempts their statuses. -/
structure Setting.IsTransparent {W : Type} (setting : Setting W) : Prop where
  pool : ∀ pool, ∃ rules, setting.registry.rulesOfPool ⟨setting.context, pool⟩ = .done rules ∧
    ∀ rule ∈ rules, rule.IsTransparent ⟨setting.context, pool⟩ fun r => (r.results, r.retried)
  device : ∀ pool device, ∃ rules,
    setting.registry.rulesOfDevice ⟨⟨setting.context, pool⟩, device⟩ = .done rules ∧
    ∀ rule ∈ rules, rule.IsTransparent ⟨⟨setting.context, pool⟩, device⟩ fun r => r.retired
  attempt : ∀ pool device item, ∃ rules,
    setting.registry.rulesOfAttempt ⟨⟨⟨setting.context, pool⟩, device⟩, item⟩ = .done rules ∧
    ∀ rule ∈ rules,
      rule.IsTransparent ⟨⟨⟨setting.context, pool⟩, device⟩, item⟩ TestResult.status

/-- Where no rules are configured for pools, devices and attempts all rules are transparent. -/
theorem Setting.isTransparent_of_unruled {W : Type} {setting : Setting W}
    (pool : setting.context.config.rules.pool = []) (device : setting.context.config.rules.device = [])
    (attempt : setting.context.config.rules.testCaseRun = []) : setting.IsTransparent where
  pool p := by
    refine ⟨[], ?_, nofun⟩
    simp only [Registry.rulesOfPool, PoolContext.config, pool]
    rfl
  device p d := by
    refine ⟨[], ?_, nofun⟩
    simp only [Registry.rulesOfDevice, DeviceContext.config, PoolContext.config, device]
    rfl
  attempt p d x := by
    refine ⟨[], ?_, nofun⟩
    simp only [Registry.rulesOfAttempt, AttemptContext.config, DeviceContext.config,
      PoolContext.config, attempt]
    rfl

section Builtin

variable {W : Type} [Hosted W]

theorem isTransparent_timingRule (ctx : AttemptContext) (started : Time.Moment) :
    (timingRule started : Rule W AttemptContext TestResult).IsTransparent ctx TestResult.status where
  calm := isCalm_timingRule started
  admits w := ⟨w, rfl⟩
  preserves given w found w' done := by
    simp only [timingRule] at done
    obtain ⟨now, v, -, done⟩ := Action.andThen_eq_done_iff.1 done
    cases done
    exact ⟨rfl, rfl⟩

omit [Hosted W] in
theorem isTransparent_tagRetryRule (ctx : AttemptContext) :
    (tagRetryRule : Rule W AttemptContext TestResult).IsTransparent ctx TestResult.status where
  calm := by
    refine ⟨fun _ => Action.isCalm_give (), fun ctx r => ?_⟩
    unfold tagRetryRule
    dsimp only
    split <;> exact Action.isCalm_give _
  admits w := ⟨w, rfl⟩
  preserves given w found w' done := by
    unfold tagRetryRule at done
    dsimp only at done
    split at done <;> cases done <;> exact ⟨rfl, rfl⟩

theorem isCalm_writeArtifact (root name : String) (content : Files.Octets) :
    (Hosted.writeArtifact root name content : Action W Files.Failure Artifact).IsCalm := by
  intro w m
  unfold Hosted.writeArtifact Hosted.onHost
  dsimp only
  split
  · nofun
  · split <;> nofun

/-- Keeping the trace of a failure adds a file to its result, or fails. -/
theorem captureTraceRule_after_eq (fileName : String) (ctx : AttemptContext) (given : TestResult) :
    (captureTraceRule fileName : Rule W AttemptContext TestResult).after ctx given = .give given ∨
      ∃ write : Action W Reason Artifact, write.IsCalm ∧
        (captureTraceRule fileName : Rule W AttemptContext TestResult).after ctx given =
          write.andThen fun a => .give (given.withArtifact a) := by
  simp only [captureTraceRule]
  cases given.status.isFailure with
  | false => exact .inl rfl
  | true =>
    cases given.trace with
    | none => exact .inl rfl
    | some text => exact .inr ⟨_, (isCalm_writeArtifact _ _ _).mapError _, rfl⟩

theorem isTransparent_captureTraceRule (ctx : AttemptContext) (fileName : String) :
    (captureTraceRule fileName : Rule W AttemptContext TestResult).IsTransparent ctx
      TestResult.status where
  calm := by
    refine ⟨fun _ => Action.isCalm_give (), fun ctx given => ?_⟩
    rcases captureTraceRule_after_eq (W := W) fileName ctx given with same | ⟨write, calm, same⟩ <;>
      rw [same]
    · exact Action.isCalm_give given
    · exact calm.andThen fun _ _ _ _ => Action.isCalm_give _
  admits w := ⟨w, rfl⟩
  preserves given w found w' done := by
    rcases captureTraceRule_after_eq (W := W) fileName ctx given with same | ⟨write, -, same⟩ <;>
      rw [same] at done
    · cases done
      exact ⟨rfl, rfl⟩
    · obtain ⟨artifact, v, -, done⟩ := Action.andThen_eq_done_iff.1 done
      cases done
      exact ⟨rfl, rfl⟩

end Builtin

end TestFleet
