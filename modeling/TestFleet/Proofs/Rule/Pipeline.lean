import TestFleet.Rule.Pipeline
import TestFleet.Run.Attempt
/-!
# Identities through pipelines

Whatever the rules of a scope do, a value that comes out of them has the identity of the value that
was carried in (`identity_of_unwind`). What an attempt carries in is its own result or an ERROR, however
its backend ends (`AttemptContext.Executed`). A result of an attempt is therefore one of the attempt's
own pool, device and test (`identity_of_run`).
-/
namespace TestFleet

namespace Action

variable {W ε α β : Type} {x : Action W ε α} {f : α → Action W ε β} {w w' : W} {b : β}

theorem andThen_of_done {a : α} {v : W} (done : x w = (.done a, v)) : x.andThen f w = f a v := by
  unfold andThen
  rw [done]

theorem andThen_of_failed {e : ε} {v : W} (failed : x w = (.failed e, v)) :
    x.andThen f w = (.failed e, v) := by
  unfold andThen
  rw [failed]

/-- An action after another is done when both are. -/
theorem andThen_eq_done_iff :
    x.andThen f w = (.done b, w') ↔ ∃ a v, x w = (.done a, v) ∧ f a v = (.done b, w') := by
  unfold andThen
  split
  · rename_i a v h
    constructor
    · exact fun done => ⟨a, v, h, done⟩
    · rintro ⟨a', v', h', done⟩
      obtain ⟨same, rfl⟩ := Prod.mk.inj (h.symm.trans h')
      cases same
      exact done
  · rename_i h
    simp [h]
  · rename_i h
    simp [h]

theorem bind_eq_done_iff :
    (x >>= f) w = (.done b, w') ↔ ∃ a v, x w = (.done a, v) ∧ f a v = (.done b, w') :=
  andThen_eq_done_iff

/-- An action after another fails when the first does, or when the second does after it. -/
theorem andThen_eq_failed_iff {e : ε} :
    x.andThen f w = (.failed e, w') ↔
      x w = (.failed e, w') ∨ ∃ a v, x w = (.done a, v) ∧ f a v = (.failed e, w') := by
  unfold andThen
  rcases x w with ⟨_ | _ | _, v⟩ <;> simp [and_assoc]

theorem bind_eq_failed_iff {e : ε} :
    (x >>= f) w = (.failed e, w') ↔
      x w = (.failed e, w') ∨ ∃ a v, x w = (.done a, v) ∧ f a v = (.failed e, w') :=
  andThen_eq_failed_iff

/-- An action after another panics when the first does, or when the second does after it. -/
theorem andThen_eq_panicked_iff {m : String} :
    x.andThen f w = (.panicked m, w') ↔
      x w = (.panicked m, w') ∨ ∃ a v, x w = (.done a, v) ∧ f a v = (.panicked m, w') := by
  unfold andThen
  rcases x w with ⟨_ | _ | _, v⟩ <;> simp [and_assoc]

end Action

namespace Pipeline

variable {W C R : Type} [Carried R] {scope : Scope} {ctx : C} {w w' : W}

theorem identity_of_unwindRule {rule : Rule W C R} {so so' : Unwinding R}
    (h : unwindRule scope ctx rule so w = (.done so', w')) :
    Carried.identity so'.carried = Carried.identity so.carried := by
  unfold unwindRule at h
  split at h
  · dsimp only at h
    split at h
    · rename_i same
      cases h
      exact same
    · cases h
      rfl
  · cases h
    rfl
  · cases h

theorem identity_of_unwindAll {rules : List (Rule W C R)} {so so' : Unwinding R}
    (h : unwindAll scope ctx rules so w = (.done so', w')) :
    Carried.identity so'.carried = Carried.identity so.carried := by
  induction rules generalizing so w with
  | nil =>
    cases h
    rfl
  | cons rule rest ih =>
    obtain ⟨next, v, first, others⟩ := Action.andThen_eq_done_iff.1 h
    exact (ih others).trans (identity_of_unwindRule first)

/-- What comes out of the rules has the identity of what was carried in. -/
theorem identity_of_unwind {p : Pipeline W C R} {carried r : R} {depth : Nat}
    (h : p.unwind ctx carried depth w = (.done r, w')) :
    Carried.identity r = Carried.identity carried := by
  obtain ⟨so, v, unwound, last⟩ := Action.andThen_eq_done_iff.1 h
  have kept := identity_of_unwindAll unwound
  cases violation : so.violation with
  | some e =>
    simp only [violation] at last
    cases last
  | none =>
    simp only [violation] at last
    cases last
    exact kept.trans (Carried.identity_settle carried)

end Pipeline

namespace AttemptContext

variable {W : Type} [Hosted W] {ctx : AttemptContext} {w w' : W} {r : TestResult}

/-- What comes of running the backend of an attempt, and the world then. -/
inductive Executed (ctx : AttemptContext) (backends : List (Backend W)) (w : W) :
    Outcome PipelineError TestResult → W → Prop where
  /-- No backend was found. -/
  | unfound (missing : ctx.backend? backends = none) :
    Executed ctx backends w (.done (ctx.errorResult (Hosted.now w) ctx.noBackend w)) w
  /-- The limit for the backend cannot be told. -/
  | overlong (overflow : ctx.answerLimit.overflows = true) :
    Executed ctx backends w (.panicked Time.Span.overflowText) w
  /-- The backend answers with a result of the attempt. -/
  | own {b : Backend W} {r : TestResult} {v : W} (found : ctx.backend? backends = some b)
    (fits : ctx.answerLimit.overflows = false) (answered : ctx.answer b w = (some (.done r), v))
    (same : r.identity = ctx.identity) : Executed ctx backends w (.done r) v
  /-- The backend answers with a result of something else. -/
  | foreign {b : Backend W} {r : TestResult} {v : W} (found : ctx.backend? backends = some b)
    (fits : ctx.answerLimit.overflows = false) (answered : ctx.answer b w = (some (.done r), v))
    (differs : r.identity ≠ ctx.identity) :
    Executed ctx backends w
      (.failed (.identityChanged .attempt b.id ctx.identity.text r.identity.text)) v
  /-- The backend fails, panics or does not answer in time. -/
  | fruitless {b : Backend W} {o : Option (Outcome BackendError TestResult)} {v : W}
    (found : ctx.backend? backends = some b) (fits : ctx.answerLimit.overflows = false)
    (answered : ctx.answer b w = (o, v)) (nothing : ∀ r, o ≠ some (.done r)) (trace : String) :
    Executed ctx backends w (.done (ctx.errorResult (Hosted.now w) trace v)) v

/-- A backend is run in no other way. -/
theorem executed_of_execute {backends : List (Backend W)} {o : Outcome PipelineError TestResult}
    (h : ctx.execute backends w = (o, w')) : ctx.Executed backends w o w' := by
  unfold execute at h
  dsimp only at h
  split at h
  · rename_i missing
    cases h
    exact .unfound missing
  · rename_i b found
    split at h
    · rename_i overflow
      cases h
      exact .overlong overflow
    · rename_i fits
      have fits := Bool.eq_false_iff.2 fits
      split at h
      · rename_i r v answered
        split at h
        · rename_i same
          cases h
          exact .own found fits answered same
        · rename_i differs
          cases h
          exact .foreign found fits answered differs
      · rename_i answered
        cases h
        exact .fruitless found fits answered nofun _
      · rename_i answered
        cases h
        exact .fruitless found fits answered nofun _
      · rename_i answered
        cases h
        exact .fruitless found fits answered nofun _

theorem identity_of_execute {backends : List (Backend W)}
    (h : ctx.execute backends w = (.done r, w')) : r.identity = ctx.identity := by
  cases executed_of_execute h with
  | unfound | fruitless => rfl
  | own _ _ _ same => exact same

theorem identity_of_result {backends : List (Backend W)} {setup : Option ConfigError}
    {entered : Entered} {started : Time.Moment}
    (h : ctx.result backends setup entered started w = (.done r, w')) :
    r.identity = ctx.identity := by
  unfold result at h
  split at h
  · cases h
    rfl
  · cases h
    rfl
  · exact identity_of_execute h

/-- A result of an attempt is of the attempt's pool, device and test. -/
theorem identity_of_run {setting : Setting W} (h : ctx.run setting w = (.done r, w')) :
    r.identity = ctx.identity := by
  obtain ⟨⟨pipeline, setup⟩, v₁, -, h⟩ := Action.bind_eq_done_iff.1 h
  obtain ⟨started, v₂, -, h⟩ := Action.bind_eq_done_iff.1 h
  obtain ⟨entered, v₃, -, h⟩ := Action.bind_eq_done_iff.1 h
  obtain ⟨found, v₄, attempted, h⟩ := Action.bind_eq_done_iff.1 h
  cases found with
  | ok found =>
    have same : found.identity = ctx.identity := by
      unfold Action.attempt at attempted
      split at attempted
      · rename_i a v done
        cases attempted
        exact identity_of_result done
      · cases attempted
      · cases attempted
    exact (Pipeline.identity_of_unwind (R := TestResult) h).trans same
  | error e =>
    obtain ⟨-, v, -, failed⟩ := Action.andThen_eq_done_iff.1 h
    cases failed

end AttemptContext

end TestFleet
