import TestFleet.Proofs.Rule.Stages
/-!
# The calls of a pipeline as a trace

Of a call a trace tells which rule was called, whether it was passed, refused or left, and whether it gave
another identity than it was handed. To enter a pipeline is to call what its rules do before the scope, in
order and up to the first that fails; to unwind it is to call what they do after it, in reverse, once for
each rule that was entered (`Pipeline.path_enter`, `Pipeline.path_unwind`). A value of another identity
makes the unwinding fail.
-/
namespace TestFleet

/-! ## Calls of rules -/

/-- What a call of a rule was. -/
inductive Act where
  /-- What the rule does before its scope was done. -/
  | entered
  /-- What the rule does before its scope failed. -/
  | refused
  /-- What the rule does after its scope was called. -/
  | left
  deriving DecidableEq, Repr

/-- A call of a rule of a pipeline. -/
structure RuleCall where
  stage : Nat
  act : Act
  /-- Whether it gave a value of another identity than it was handed. -/
  foreign : Bool

/-- The rule that was called, and what the call was. -/
def RuleCall.what (call : RuleCall) : Nat × Act := (call.stage, call.act)

/-- Whether an outcome is a value of another identity than the one expected. -/
def Outcome.isForeign {ε R : Type} [Carried R] (expected : Carried.Identity R) : Outcome ε R → Bool
  | .done r => decide (Carried.identity r ≠ expected)
  | _ => false

/-- A call of one of several rules leads from one world to another. -/
inductive Rule.Called {W C R : Type} [Carried R] (rules : List (Rule W C R)) (ctx : C) :
    RuleCall → W → W → Prop where
  | entered {k : Nat} {rule : Rule W C R} {w v : W} (at_k : rules[k]? = some rule)
    (done : rule.before ctx w = (.done (), v)) : Called rules ctx ⟨k, .entered, false⟩ w v
  | refused {k : Nat} {rule : Rule W C R} {e : Reason} {w v : W} (at_k : rules[k]? = some rule)
    (failed : rule.before ctx w = (.failed e, v)) : Called rules ctx ⟨k, .refused, false⟩ w v
  | left {k : Nat} {rule : Rule W C R} {carried : R} {w : W} (at_k : rules[k]? = some rule) :
    Called rules ctx
      ⟨k, .left, (rule.after ctx carried w).1.isForeign (Carried.identity carried)⟩ w
      (rule.after ctx carried w).2

namespace RuleCall

variable {W C R : Type} [Carried R] {rules : List (Rule W C R)} (ctx : C)

/-- What a trace tells of a call before a scope. -/
def ofBefore (call : BeforeCall) : RuleCall :=
  match call.answer with
  | .ok _ => ⟨call.stage, .entered, false⟩
  | .error _ => ⟨call.stage, .refused, false⟩

/-- What a trace tells of a call after a scope. -/
def ofAfter (call : AfterCall R) : RuleCall :=
  ⟨call.stage, .left,
    (Outcome.ofExcept call.answer).isForeign (Carried.identity call.given)⟩

theorem foreign_ofBefore (call : BeforeCall) : (ofBefore call).foreign = false := by
  unfold ofBefore
  split <;> rfl

theorem foreign_ofAfter_iff {call : AfterCall R} :
    (ofAfter call).foreign = true ↔ call.IsForeign (Carried.identity call.given) := by
  unfold ofAfter AfterCall.IsForeign
  cases call.answer <;> simp [Outcome.ofExcept, Outcome.isForeign]

theorem called_of_before (call : BeforeCall) (w v : W) (leads : call.Leads rules ctx w v) :
    Rule.Called rules ctx (ofBefore call) w v := by
  obtain ⟨stage, answer⟩ := call
  obtain ⟨rule, here, answered⟩ := leads
  cases answer with
  | ok => exact .entered here answered
  | error reason => exact .refused here answered

theorem called_of_after (call : AfterCall R) (w v : W) (leads : call.Leads rules ctx w v) :
    Rule.Called rules ctx (ofAfter call) w v := by
  obtain ⟨rule, here, answered⟩ := leads
  have called : Rule.Called rules ctx ⟨call.stage, .left, _⟩ w (rule.after ctx call.given w).2 :=
    .left here
  rwa [answered] at called

end RuleCall

namespace Pipeline

/-- How a pipeline is entered: so many rules, and one that fails unless these are all. -/
def entering (depth : Nat) (full : Bool) : List (Nat × Act) :=
  (List.range depth).map (·, .entered) ++ if full then [] else [(depth, .refused)]

/-- How a pipeline is unwound. -/
def leaving (depth : Nat) : List (Nat × Act) := (List.range depth).reverse.map (·, .left)

variable {W C R : Type} [Carried R] {p : Pipeline W C R} {depth : Nat} (ctx : C)

/-- **Rules are entered in order, up to the first that fails.** -/
theorem path_enter (calm : ∀ rule ∈ p.rules, rule.IsCalm) (w : W) :
    ∃ entered v calls, p.enter ctx w = (.done entered, v) ∧ entered.depth ≤ p.rules.length ∧
      Path (Rule.Called p.rules ctx) w calls v ∧
      calls.map RuleCall.what = entering entered.depth entered.failure.isNone ∧
      ∀ call ∈ calls, call.foreign = false := by
  obtain ⟨entered, calls, v, ended, path, descends⟩ := exists_enter_calls ctx calm w
  refine ⟨entered, v, calls.map RuleCall.ofBefore, ended, descends.depth_le,
    path.map (RuleCall.called_of_before ctx), ?_, ?_⟩
  · cases descends <;> simp [passed, entering, RuleCall.what, RuleCall.ofBefore, Function.comp_def]
  · intro call made
    obtain ⟨before, -, rfl⟩ := List.mem_map.1 made
    exact RuleCall.foreign_ofBefore before

/-- **Rules that were entered are left in reverse, each once.** If one of them gives a value of another
identity the unwinding fails. -/
theorem path_unwind (carried : R) (calm : ∀ rule ∈ p.rules, rule.IsCalm)
    (within : depth ≤ p.rules.length) (w : W) :
    ∃ calls, Path (Rule.Called p.rules ctx) w calls (p.unwind ctx carried depth w).2 ∧
      calls.map RuleCall.what = leaving depth ∧
      ((∃ call ∈ calls, call.foreign = true) → ∃ e, (p.unwind ctx carried depth w).1 = .failed e) := by
  obtain ⟨calls, path, order, handed, ended⟩ := exists_unwind_calls ctx carried calm within w
  refine ⟨calls.map RuleCall.ofAfter, path.map (RuleCall.called_of_after ctx), ?_, ?_⟩
  · rw [leaving, ← order, List.map_map, List.map_map]
    rfl
  · rintro ⟨call, told, foreign⟩
    obtain ⟨after, made, rfl⟩ := List.mem_map.1 told
    obtain ⟨u, u', leads⟩ := path.leads_of_mem made
    have violates : calls.findSome? (AfterCall.violation? p.scope p.rules) ≠ none := fun none =>
      (AfterCall.violation?_eq_none_iff leads).1 (List.findSome?_eq_none_iff.1 none after made)
        (RuleCall.foreign_ofAfter_iff.1 foreign)
    obtain ⟨e, first⟩ := Option.ne_none_iff_exists'.1 violates
    exact ⟨e, by rw [ended, first]⟩

/-- A scope that is given up is unwound all the same, and nothing comes of it. -/
theorem path_release {ε : Type} (carried : R) (calm : ∀ rule ∈ p.rules, rule.IsCalm)
    (within : depth ≤ p.rules.length) (w : W) :
    ∃ v calls, (p.release ctx carried depth : Action W ε Unit) w = (.done (), v) ∧
      Path (Rule.Called p.rules ctx) w calls v ∧ calls.map RuleCall.what = leaving depth := by
  obtain ⟨calls, path, what, -⟩ := path_unwind ctx carried calm within w
  have calmUnwind : (p.unwind ctx carried depth).IsCalm := isCalm_unwind calm
  refine ⟨_, calls, ?_, path, what⟩
  unfold release
  obtain ⟨v, ⟨r, done⟩ | ⟨e, failed⟩⟩ := calmUnwind.done_or_failed w
  · rw [done]
  · rw [failed]

end Pipeline

end TestFleet
