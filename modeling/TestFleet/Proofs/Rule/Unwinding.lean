import TestFleet.Proofs.Rule.Pipeline
/-!
# How pipelines end

What comes out of a pipeline has every property that its rules keep and that what was carried in has
once it is settled (`keeps_unwind`). An unwinding fails only where one of its rules changed the
identity of what it was handed (`violates_of_unwind`), and it fails wherever one does
(`isSome_violation_iff`). A pipeline panics only where one of its rules does (`panics_of_enter`,
`panics_of_unwind`).
-/
namespace TestFleet

namespace Rule

variable {W C R : Type}

/-- Entering or leaving the rule may panic. -/
def Panics (ctx : C) (m : String) (rule : Rule W C R) : Prop :=
  (∃ w, (rule.before ctx w).1 = .panicked m) ∨ ∃ r w, (rule.after ctx r w).1 = .panicked m

variable [Carried R]

/-- What the rule makes of a value with a property has the property too, as long as the identity is
kept: a value of another identity is not carried on. -/
def Keeps (ctx : C) (P : R → Prop) (rule : Rule W C R) : Prop :=
  ∀ given w found w', P given → rule.after ctx given w = (.done found, w') →
    Carried.identity found = Carried.identity given → P found

/-- The rule may change the identity of what it is handed, and the error says how. -/
def Violates (scope : Scope) (ctx : C) (e : PipelineError) (rule : Rule W C R) : Prop :=
  ∃ given w found w', rule.after ctx given w = (.done found, w') ∧
    Carried.identity found ≠ Carried.identity given ∧
    e = Pipeline.violation scope rule (Carried.identity given) (Carried.identity found)

end Rule

namespace Pipeline

variable {W C R : Type} {scope : Scope} {ctx : C} {w w' : W} {rule : Rule W C R}
  {rules : List (Rule W C R)} {p : Pipeline W C R} {depth : Nat} {m : String} {e : PipelineError}

/-! ## Panics -/

theorem panics_of_enterFrom (h : enterFrom scope ctx depth rules w = (.panicked m, w')) :
    ∃ rule ∈ rules, rule.Panics ctx m := by
  induction rules generalizing depth w with
  | nil => cases h
  | cons rule rest ih =>
    unfold enterFrom at h
    split at h
    · obtain ⟨later, hr, panics⟩ := ih h
      exact ⟨later, List.mem_cons_of_mem _ hr, panics⟩
    · cases h
    · rename_i here
      cases h
      exact ⟨rule, List.mem_cons_self, .inl ⟨w, congrArg Prod.fst here⟩⟩

/-- Where a panic leaves a pipeline that is entered, one of its rules panics. -/
theorem panics_of_enter (h : p.enter ctx w = (.panicked m, w')) :
    ∃ rule ∈ p.rules, rule.Panics ctx m :=
  panics_of_enterFrom h

/-- A rule that fails before its scope ends the descent; entering does not fail by it. -/
theorem enter_ne_failed : p.enter ctx w ≠ (.failed e, w') := by
  unfold enter
  generalize p.rules = rules
  generalize 0 = depth
  induction rules generalizing depth w with
  | nil => nofun
  | cons rule rest ih =>
    unfold enterFrom
    split
    · exact ih _
    · nofun
    · nofun

/-- What ends the descent is that a rule fails before its scope. -/
theorem exists_before_of_enter {entered : Entered} (h : p.enter ctx w = (.done entered, w'))
    (failed : entered.failure = some e) : ∃ rule reason, e = .before p.scope rule reason := by
  unfold enter at h
  revert h
  generalize p.rules = rules
  generalize 0 = depth
  intro h
  induction rules generalizing depth w with
  | nil =>
    cases h
    cases failed
  | cons rule rest ih =>
    unfold enterFrom at h
    split at h
    · exact ih _ h
    · rename_i reason _ _
      cases h
      cases failed
      exact ⟨rule.name, reason, rfl⟩
    · cases h

variable [Carried R] {so so' : Unwinding R} {carried r : R} {P : R → Prop}

theorem panics_of_unwindRule (h : unwindRule scope ctx rule so w = (.panicked m, w')) :
    rule.Panics ctx m := by
  unfold unwindRule at h
  split at h
  · dsimp only at h
    split at h <;> cases h
  · cases h
  · rename_i here
    cases h
    exact .inr ⟨so.carried, w, congrArg Prod.fst here⟩

theorem panics_of_unwindAll (h : unwindAll scope ctx rules so w = (.panicked m, w')) :
    ∃ rule ∈ rules, rule.Panics ctx m := by
  induction rules generalizing so w with
  | nil => cases h
  | cons rule rest ih =>
    rcases Action.andThen_eq_panicked_iff.1 h with first | ⟨next, v, -, others⟩
    · exact ⟨rule, List.mem_cons_self, panics_of_unwindRule first⟩
    · obtain ⟨later, hr, panics⟩ := ih others
      exact ⟨later, List.mem_cons_of_mem _ hr, panics⟩

/-- Where a panic leaves a pipeline that is unwound, one of its rules panics. -/
theorem panics_of_unwind (h : p.unwind ctx carried depth w = (.panicked m, w')) :
    ∃ rule ∈ p.rules, rule.Panics ctx m := by
  rcases Action.andThen_eq_panicked_iff.1 h with panicked | ⟨so, v, -, last⟩
  · obtain ⟨rule, hr, panics⟩ := panics_of_unwindAll panicked
    exact ⟨rule, List.mem_of_mem_take (List.mem_reverse.1 hr), panics⟩
  · cases violation : so.violation <;> simp only [violation] at last <;> cases last

theorem panics_of_release {ε : Type}
    (h : (p.release ctx carried depth : Action W ε Unit) w = (.panicked m, w')) :
    ∃ rule ∈ p.rules, rule.Panics ctx m := by
  unfold release at h
  split at h
  · rename_i panicked
    cases h
    exact panics_of_unwind panicked
  · cases h

/-! ## Errors -/

theorem unwindAll_ne_failed : unwindAll scope ctx rules so w ≠ (.failed e, w') := by
  induction rules generalizing so w with
  | nil => nofun
  | cons rule rest ih =>
    intro h
    rcases Action.andThen_eq_failed_iff.1 h with first | ⟨next, v, -, others⟩
    · unfold unwindRule at first
      split at first
      · dsimp only at first
        split at first <;> cases first
      · cases first
      · cases first
    · exact ih others

/-- A rule adds no violation but its own. -/
theorem violates_of_unwindRule (h : unwindRule scope ctx rule so w = (.done so', w'))
    (found : so'.violation = some e) : so.violation = some e ∨ rule.Violates scope ctx e := by
  unfold unwindRule at h
  split at h
  · rename_i annotated v here
    dsimp only at h
    split at h
    · cases h
      exact .inl found
    · rename_i other
      cases h
      cases earlier : so.violation with
      | some e' =>
        rw [earlier] at found
        exact .inl found
      | none =>
        rw [earlier] at found
        cases found
        exact .inr ⟨so.carried, w, annotated, w', here, other, rfl⟩
  · cases h
    exact .inl found
  · cases h

theorem violates_of_unwindAll (h : unwindAll scope ctx rules so w = (.done so', w'))
    (found : so'.violation = some e) :
    so.violation = some e ∨ ∃ rule ∈ rules, rule.Violates scope ctx e := by
  induction rules generalizing so w with
  | nil =>
    cases h
    exact .inl found
  | cons rule rest ih =>
    obtain ⟨next, v, first, others⟩ := Action.andThen_eq_done_iff.1 h
    rcases ih others with earlier | ⟨later, hr, violates⟩
    · refine (violates_of_unwindRule first earlier).imp_right fun violates => ?_
      exact ⟨rule, List.mem_cons_self, violates⟩
    · exact .inr ⟨later, List.mem_cons_of_mem _ hr, violates⟩

/-- Where an unwinding fails, one of the rules changed the identity of what it was handed. -/
theorem violates_of_unwind (h : p.unwind ctx carried depth w = (.failed e, w')) :
    ∃ rule ∈ p.rules, rule.Violates p.scope ctx e := by
  rcases Action.andThen_eq_failed_iff.1 h with failed | ⟨so, v, unwound, last⟩
  · exact absurd failed unwindAll_ne_failed
  · cases violation : so.violation with
    | none =>
      rw [violation] at last
      cases last
    | some e' =>
      rw [violation] at last
      cases last
      obtain ⟨rule, hr, violates⟩ := (violates_of_unwindAll unwound violation).resolve_left nofun
      exact ⟨rule, List.mem_of_mem_take (List.mem_reverse.1 hr), violates⟩

/-- One of the rules that are unwound gives something of another identity than what it is handed, which
is what the rules before it have made of what is carried. -/
def Strays (ctx : C) : List (Rule W C R) → R → W → Prop
  | [], _, _ => False
  | rule :: rest, carried, w =>
    match rule.after ctx carried w with
    | (.done found, w) => Carried.identity found ≠ Carried.identity carried ∨ Strays ctx rest found w
    | (.failed _, w) => Strays ctx rest carried w
    | (.panicked _, _) => False

/-- A violation comes out of an unwinding just where one went in or a rule changes the identity. -/
theorem isSome_violation_iff (h : unwindAll scope ctx rules so w = (.done so', w')) :
    so'.violation.isSome = true ↔ so.violation.isSome = true ∨ Strays ctx rules so.carried w := by
  induction rules generalizing so w with
  | nil =>
    cases h
    simp [Strays]
  | cons rule rest ih =>
    obtain ⟨next, v, first, others⟩ := Action.andThen_eq_done_iff.1 h
    rw [ih others]
    unfold unwindRule at first
    split at first
    · rename_i found _ here
      dsimp only at first
      split at first
      · rename_i same
        cases first
        simp [Strays, here, same]
      · rename_i other
        cases first
        simp [Strays, here, other]
    · rename_i here
      cases first
      simp [Strays, here]
    · cases first

/-- An unwinding that no panic ends fails just where a rule changes the identity. -/
theorem failed_iff_strays {o : Outcome PipelineError R}
    (h : p.unwind ctx carried depth w = (o, w')) (quiet : ∀ m, o ≠ .panicked m) :
    (∃ e, o = .failed e) ↔ Strays ctx (p.rules.take depth).reverse (Carried.settle carried) w := by
  cases o with
  | done r =>
    obtain ⟨so, v, unwound, last⟩ := Action.andThen_eq_done_iff.1 h
    have strays := isSome_violation_iff unwound
    cases violation : so.violation with
    | some e =>
      rw [violation] at last
      cases last
    | none =>
      rw [violation] at strays
      simpa using strays
  | failed e =>
    rcases Action.andThen_eq_failed_iff.1 h with failed | ⟨so, v, unwound, last⟩
    · exact absurd failed unwindAll_ne_failed
    · have strays := isSome_violation_iff unwound
      cases violation : so.violation with
      | none =>
        rw [violation] at last
        cases last
      | some e' =>
        rw [violation] at strays
        simpa using strays
  | panicked m => exact absurd rfl (quiet m)

/-! ## Values -/

theorem keeps_unwindRule (keeps : rule.Keeps ctx P) (holds : P so.carried)
    (h : unwindRule scope ctx rule so w = (.done so', w')) : P so'.carried := by
  unfold unwindRule at h
  split at h
  · rename_i annotated v here
    dsimp only at h
    split at h
    · rename_i same
      cases h
      exact keeps _ _ _ _ holds here same
    · cases h
      exact holds
  · cases h
    exact holds
  · cases h

theorem keeps_unwindAll (keeps : ∀ rule ∈ rules, rule.Keeps ctx P) (holds : P so.carried)
    (h : unwindAll scope ctx rules so w = (.done so', w')) : P so'.carried := by
  induction rules generalizing so w with
  | nil =>
    cases h
    exact holds
  | cons rule rest ih =>
    obtain ⟨next, v, first, others⟩ := Action.andThen_eq_done_iff.1 h
    have holds := keeps_unwindRule (keeps rule List.mem_cons_self) holds first
    exact ih (fun rule hr => keeps rule (List.mem_cons_of_mem _ hr)) holds others

/-- What comes out of a pipeline has what the entered rules keep. -/
theorem keeps_unwind (keeps : ∀ rule ∈ p.rules.take depth, rule.Keeps ctx P)
    (settled : P (Carried.settle carried)) (h : p.unwind ctx carried depth w = (.done r, w')) :
    P r := by
  obtain ⟨so, v, unwound, last⟩ := Action.andThen_eq_done_iff.1 h
  have holds : P so.carried :=
    keeps_unwindAll (fun rule hr => keeps rule (List.mem_reverse.1 hr)) settled unwound
  cases violation : so.violation with
  | some e =>
    rw [violation] at last
    cases last
  | none =>
    rw [violation] at last
    cases last
    exact holds

end Pipeline

end TestFleet
