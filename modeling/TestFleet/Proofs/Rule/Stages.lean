import TestFleet.Proofs.Rule.Calm
/-!
# The stages of a pipeline, call by call

A pipeline of rules that do not panic is entered rule by rule, up to the first that refuses, and unwound
from there: each entered rule is called once, the innermost first, and is handed what the rules inside it
have made of the settled value. A rule that fails contributes nothing, and neither does one that gives
another identity; the innermost of those is what the unwinding fails with, once all rules are unwound
(`Pipeline.Unwinds`). The calls are told by the worlds they lead to: a `Path` is a sequence of calls
from one world to another, and a world that records the calls made has those of the path recorded
(`Path.recorded`).
-/
namespace TestFleet

/-! ## Paths -/

/-- Steps that lead from one world to another, with what each of them is. -/
inductive Path {W α : Type} (Leads : α → W → W → Prop) : W → List α → W → Prop where
  | nil {w : W} : Path Leads w [] w
  | cons {a : α} {rest : List α} {w v u : W} :
    Leads a w v → Path Leads v rest u → Path Leads w (a :: rest) u

namespace Path

variable {W α β : Type} {Leads : α → W → W → Prop} {w v u : W} {xs ys : List α}

theorem single {a : α} (h : Leads a w v) : Path Leads w [a] v := .cons h .nil

theorem append (first : Path Leads w xs v) (second : Path Leads v ys u) :
    Path Leads w (xs ++ ys) u := by
  induction first with
  | nil => exact second
  | cons step _ ih => exact .cons step (ih second)

/-- Steps of one kind that are steps of another, under other names. -/
theorem map {Leads' : β → W → W → Prop} {f : α → β}
    (imp : ∀ a w v, Leads a w v → Leads' (f a) w v) (path : Path Leads w xs v) :
    Path Leads' w (xs.map f) v := by
  induction path with
  | nil => exact .nil
  | cons step _ ih => exact .cons (imp _ _ _ step) ih

theorem leads_of_mem {a : α} (path : Path Leads w xs v) (ha : a ∈ xs) : ∃ u u', Leads a u u' := by
  induction path with
  | nil => cases ha
  | cons step _ ih =>
    rcases List.mem_cons.1 ha with rfl | later
    · exact ⟨_, _, step⟩
    · exact ih later

/-- Where what is noted of every step is recorded the record is that of the path. -/
theorem recorded (record : W → List β) (note : α → List β)
    (recorded : ∀ a w v, Leads a w v → record v = record w ++ note a) (path : Path Leads w xs v) :
    record v = record w ++ xs.flatMap note := by
  induction path with
  | nil => simp
  | cons step _ ih => simp [ih, recorded _ _ _ step]

/-- Where a flag is raised by some of the steps it is raised by the path if it goes by one of these. -/
theorem raised {flag : W → Bool} {raises : α → Bool}
    (raised : ∀ a w v, Leads a w v → flag v = (flag w || raises a)) (path : Path Leads w xs v) :
    flag v = (flag w || xs.any raises) := by
  induction path with
  | nil => simp
  | cons step _ ih => rw [ih, raised _ _ _ step, List.any_cons, Bool.or_assoc]

end Path

/-! ## Calls -/

/-- A rule was called before its scope: the place of the rule and what it answered. -/
structure BeforeCall where
  stage : Nat
  answer : Except Reason Unit

/-- A rule was called after its scope: the place of the rule, what it was handed and what it answered. -/
structure AfterCall (R : Type) where
  stage : Nat
  given : R
  answer : Except Reason R

section Calls

variable {W C R : Type}

/-- The call leads from one world to another. -/
def BeforeCall.Leads (rules : List (Rule W C R)) (ctx : C) (call : BeforeCall) (w v : W) : Prop :=
  ∃ rule, rules[call.stage]? = some rule ∧ rule.before ctx w = (.ofExcept call.answer, v)

namespace AfterCall

/-- The call leads from one world to another. -/
def Leads (rules : List (Rule W C R)) (ctx : C) (call : AfterCall R) (w v : W) : Prop :=
  ∃ rule, rules[call.stage]? = some rule ∧
    rule.after ctx call.given w = (.ofExcept call.answer, v)

variable [Carried R]

/-- The rule gave something of another identity than the one expected. -/
def IsForeign (expected : Carried.Identity R) (call : AfterCall R) : Prop :=
  ∃ found, call.answer = .ok found ∧ Carried.identity found ≠ expected

/-- What is carried on after a call: what the rule gave, unless it failed or gave another identity. -/
def annotate (carried : R) (call : AfterCall R) : R :=
  match call.answer with
  | .ok found => if Carried.identity found = Carried.identity carried then found else carried
  | .error _ => carried

/-- What is carried on after several calls. -/
def carriedAfter (carried : R) (calls : List (AfterCall R)) : R := calls.foldl annotate carried

/-- What a rule of a pipeline did wrong that gave another identity than it was handed. -/
def violation? (scope : Scope) (rules : List (Rule W C R)) (call : AfterCall R) :
    Option PipelineError :=
  match call.answer with
  | .ok found =>
    if Carried.identity found = Carried.identity call.given then none
    else rules[call.stage]?.map fun rule =>
      Pipeline.violation scope rule (Carried.identity call.given) (Carried.identity found)
  | .error _ => none

/-- Each call was handed what the calls before it have made of a value. -/
def Handed : R → List (AfterCall R) → Prop
  | _, [] => True
  | carried, call :: rest => call.given = carried ∧ Handed (call.annotate carried) rest

@[simp]
theorem identity_annotate (carried : R) (call : AfterCall R) :
    Carried.identity (call.annotate carried) = Carried.identity carried := by
  unfold annotate
  split
  · split
    · assumption
    · rfl
  · rfl

@[simp]
theorem identity_carriedAfter (carried : R) (calls : List (AfterCall R)) :
    Carried.identity (carriedAfter carried calls) = Carried.identity carried := by
  induction calls generalizing carried with
  | nil => rfl
  | cons call rest ih => exact (ih _).trans (identity_annotate carried call)

theorem Handed.given {carried : R} {inner outer : List (AfterCall R)} {call : AfterCall R}
    (handed : Handed carried (inner ++ call :: outer)) : call.given = carriedAfter carried inner := by
  induction inner generalizing carried with
  | nil => exact handed.1
  | cons first rest ih => exact ih handed.2

/-- Whatever is handed to a rule has the identity of what was carried in. -/
theorem Handed.identity {carried : R} {calls : List (AfterCall R)} {call : AfterCall R}
    (handed : Handed carried calls) (made : call ∈ calls) :
    Carried.identity call.given = Carried.identity carried := by
  obtain ⟨inner, outer, rfl⟩ := List.append_of_mem made
  rw [handed.given, identity_carriedAfter]

variable {scope : Scope} {rules : List (Rule W C R)} {ctx : C}

/-- A call that was made violates just where it gives another identity than it was handed. -/
theorem violation?_eq_none_iff {call : AfterCall R} {w v : W} (leads : call.Leads rules ctx w v) :
    call.violation? scope rules = none ↔ ¬ call.IsForeign (Carried.identity call.given) := by
  obtain ⟨rule, here, -⟩ := leads
  unfold violation? IsForeign
  cases call.answer with
  | ok found => by_cases same : Carried.identity found = Carried.identity call.given <;> simp [same, here]
  | error e => simp

end AfterCall

end Calls

namespace Pipeline

variable {W C R : Type}

/-! ## The way in -/

/-- The calls of so many rules that are all passed. -/
def passed (depth : Nat) : List BeforeCall := (List.range depth).map (⟨·, .ok ()⟩)

/-- How a pipeline is entered: in order, up to the first rule that refuses. -/
inductive Descends (p : Pipeline W C R) : Entered → List BeforeCall → Prop where
  | whole : p.Descends ⟨p.rules.length, none⟩ (passed p.rules.length)
  | upTo {depth : Nat} {rule : Rule W C R} {reason : Reason} (at_depth : p.rules[depth]? = some rule) :
    p.Descends ⟨depth, some (.before p.scope rule.name reason)⟩
      (passed depth ++ [⟨depth, .error reason⟩])

variable {scope : Scope} {rules : List (Rule W C R)} {p : Pipeline W C R} {depth : Nat} (ctx : C)

/-- What is still to be entered, the earlier rules being passed. -/
theorem exists_enterFrom_calls (p : Pipeline W C R) (earlier rest : List (Rule W C R))
    (all : p.rules = earlier ++ rest) (calm : ∀ rule ∈ rest, rule.IsCalm) (w : W) :
    ∃ entered calls v, enterFrom p.scope ctx earlier.length rest w = (.done entered, v) ∧
      Path (BeforeCall.Leads p.rules ctx) w calls v ∧
      p.Descends entered (passed earlier.length ++ calls) := by
  induction rest generalizing earlier w with
  | nil =>
    rw [List.append_nil] at all
    refine ⟨_, [], w, rfl, .nil, ?_⟩
    rw [List.append_nil, ← all]
    exact .whole
  | cons rule rest ih =>
    have here : p.rules[earlier.length]? = some rule := by simp [all]
    obtain ⟨v, ⟨_, done⟩ | ⟨reason, refused⟩⟩ :=
      ((calm rule List.mem_cons_self).before ctx).done_or_failed w
    · have others : ∀ rule ∈ rest, rule.IsCalm := fun rule hr => calm rule (List.mem_cons_of_mem _ hr)
      obtain ⟨entered, calls, u, ended, path, descends⟩ := ih (earlier ++ [rule]) (by simp [all]) others v
      rw [List.length_append, List.length_singleton] at ended descends
      refine ⟨entered, ⟨earlier.length, .ok ()⟩ :: calls, u, ?_, .cons ⟨rule, here, done⟩ path, ?_⟩
      · simp only [enterFrom, done, ended]
      · simpa [passed, List.range_succ] using descends
    · refine ⟨_, [⟨earlier.length, .error reason⟩], v, ?_, .single ⟨rule, here, refused⟩, .upTo here⟩
      simp only [enterFrom, refused]

/-- A pipeline is entered in order, up to the first rule that refuses. -/
theorem exists_enter_calls (calm : ∀ rule ∈ p.rules, rule.IsCalm) (w : W) :
    ∃ entered calls v, p.enter ctx w = (.done entered, v) ∧
      Path (BeforeCall.Leads p.rules ctx) w calls v ∧ p.Descends entered calls :=
  exists_enterFrom_calls ctx p [] p.rules rfl calm w

theorem Descends.depth_le {entered : Entered} {calls : List BeforeCall}
    (descends : p.Descends entered calls) : entered.depth ≤ p.rules.length := by
  cases descends with
  | whole => exact Nat.le_refl _
  | upTo here => exact Nat.le_of_lt (List.getElem?_eq_some_iff.1 here).1

/-! ## The way out -/

variable [Carried R]

/-- How a pipeline is unwound from a depth, and what comes of it: the rules entered are called from the
innermost outwards, each with what the calls inside it have made of the settled value. What they have all
made of it comes out, of the identity that was carried in, just where none of them gave another; otherwise
the first that did is told of. -/
structure Unwinds (p : Pipeline W C R) (ctx : C) (carried : R) (depth : Nat) (w : W)
    (calls : List (AfterCall R)) : Prop where
  path : Path (AfterCall.Leads p.rules ctx) w calls (p.unwind ctx carried depth w).2
  order : calls.map (·.stage) = (List.range depth).reverse
  given : ∀ inner call outer, calls = inner ++ call :: outer →
    call.given = AfterCall.carriedAfter (Carried.settle carried) inner
  done_iff : (∃ r, (p.unwind ctx carried depth w).1 = .done r) ↔
    ∀ call ∈ calls, ¬ call.IsForeign (Carried.identity carried)
  value : ∀ r, (p.unwind ctx carried depth w).1 = .done r →
    r = AfterCall.carriedAfter (Carried.settle carried) calls ∧
      Carried.identity r = Carried.identity carried
  violation : ∀ inner call outer rule found, calls = inner ++ call :: outer →
    (∀ earlier ∈ inner, ¬ earlier.IsForeign (Carried.identity carried)) →
    p.rules[call.stage]? = some rule → call.answer = .ok found →
    Carried.identity found ≠ Carried.identity carried →
    (p.unwind ctx carried depth w).1 = .failed (.identityChanged p.scope rule.name
      (Carried.describe (Carried.identity carried)) (Carried.describe (Carried.identity found)))

/-- A rule that is unwound is called once, and annotates what is carried. -/
theorem exists_unwindRule_call (scope : Scope) {rule : Rule W C R} {k : Nat} (here : rules[k]? = some rule)
    (calm : rule.IsCalm) (so : Unwinding R) (w : W) :
    ∃ (call : AfterCall R) (v : W), call.stage = k ∧ call.given = so.carried ∧
      call.Leads rules ctx w v ∧
      unwindRule scope ctx rule so w =
        (.done ⟨call.annotate so.carried, so.violation.or (call.violation? scope rules)⟩, v) := by
  unfold unwindRule
  obtain ⟨v, ⟨found, done⟩ | ⟨reason, failed⟩⟩ := (calm.after ctx so.carried).done_or_failed w
  · refine ⟨⟨k, so.carried, .ok found⟩, v, rfl, rfl, ⟨rule, here, done⟩, ?_⟩
    rw [done]
    by_cases same : Carried.identity found = Carried.identity so.carried
    · simp [AfterCall.annotate, AfterCall.violation?, same]
    · cases so.violation <;> simp [AfterCall.annotate, AfterCall.violation?, same, here]
  · refine ⟨⟨k, so.carried, .error reason⟩, v, rfl, rfl, ⟨rule, here, failed⟩, ?_⟩
    rw [failed]
    simp [AfterCall.annotate, AfterCall.violation?]

/-- Entered rules are unwound from the innermost outwards. -/
theorem exists_unwindAll_calls (scope : Scope) (calm : ∀ rule ∈ rules, rule.IsCalm)
    (within : depth ≤ rules.length) (so : Unwinding R) (w : W) :
    ∃ calls v, unwindAll scope ctx (rules.take depth).reverse so w =
        (.done ⟨AfterCall.carriedAfter so.carried calls,
          so.violation.or (calls.findSome? (AfterCall.violation? scope rules))⟩, v) ∧
      Path (AfterCall.Leads rules ctx) w calls v ∧ calls.map (·.stage) = (List.range depth).reverse ∧
      AfterCall.Handed so.carried calls := by
  induction depth generalizing so w with
  | zero => exact ⟨[], w, by simp [unwindAll, Action.give, AfterCall.carriedAfter], .nil, rfl, trivial⟩
  | succ depth ih =>
    have inside : depth < rules.length := within
    have here : rules[depth]? = some rules[depth] := List.getElem?_eq_getElem inside
    have innermost : (rules.take (depth + 1)).reverse = rules[depth] :: (rules.take depth).reverse := by
      rw [List.take_add_one, here]
      simp
    obtain ⟨call, v, place, given, leads, first⟩ :=
      exists_unwindRule_call ctx scope here (calm _ (List.getElem_mem inside)) so w
    obtain ⟨calls, u, others, path, order, handed⟩ := ih (Nat.le_of_succ_le within)
      ⟨call.annotate so.carried, so.violation.or (call.violation? scope rules)⟩ v
    refine ⟨call :: calls, u, ?_, .cons leads path, ?_, given, handed⟩
    · rw [innermost, unwindAll, Action.andThen_of_done first, others, Option.or_assoc]
      cases violation : call.violation? scope rules <;>
        simp [AfterCall.carriedAfter, violation]
    · rw [List.map_cons, place, order, List.range_succ, List.reverse_append]
      rfl

/-- What comes of an unwinding is read off its calls. -/
theorem exists_unwind_calls (carried : R) (calm : ∀ rule ∈ p.rules, rule.IsCalm)
    (within : depth ≤ p.rules.length) (w : W) :
    ∃ calls, Path (AfterCall.Leads p.rules ctx) w calls (p.unwind ctx carried depth w).2 ∧
      calls.map (·.stage) = (List.range depth).reverse ∧
      AfterCall.Handed (Carried.settle carried) calls ∧
      (p.unwind ctx carried depth w).1 =
        match calls.findSome? (AfterCall.violation? p.scope p.rules) with
        | some e => .failed e
        | none => .done (AfterCall.carriedAfter (Carried.settle carried) calls) := by
  obtain ⟨calls, v, unwound, path, order, handed⟩ :=
    exists_unwindAll_calls ctx p.scope calm within ⟨Carried.settle carried, none⟩ w
  unfold unwind
  rw [Action.andThen_of_done unwound]
  refine ⟨calls, ?_, order, handed, ?_⟩ <;>
    simp only [Option.none_or] <;>
    cases calls.findSome? (AfterCall.violation? p.scope p.rules)
  · exact path
  · exact path
  · rfl
  · rfl

/-- An unwinding of rules that do not panic goes as it should. -/
theorem exists_unwinds (carried : R) (calm : ∀ rule ∈ p.rules, rule.IsCalm)
    (within : depth ≤ p.rules.length) (w : W) : ∃ calls, p.Unwinds ctx carried depth w calls := by
  obtain ⟨calls, path, order, handed, ended⟩ := exists_unwind_calls ctx carried calm within w
  have settled := Carried.identity_settle carried
  -- What is handed on has the identity carried in, so that a call violates just where it is foreign.
  have violates (call : AfterCall R) (made : call ∈ calls) :
      call.violation? p.scope p.rules = none ↔ ¬ call.IsForeign (Carried.identity carried) := by
    obtain ⟨u, u', leads⟩ := path.leads_of_mem made
    rw [AfterCall.violation?_eq_none_iff leads, handed.identity made, settled]
  have none_iff : calls.findSome? (AfterCall.violation? p.scope p.rules) = none ↔
      ∀ call ∈ calls, ¬ call.IsForeign (Carried.identity carried) := by
    rw [List.findSome?_eq_none_iff]
    exact forall₂_congr violates
  refine ⟨calls, {
    path, order
    given := ?given
    done_iff := ?done_iff
    value := ?value
    violation := ?violation }⟩
  case given =>
    rintro inner call outer rfl
    exact handed.given
  case done_iff =>
    rw [ended, ← none_iff]
    cases calls.findSome? (AfterCall.violation? p.scope p.rules) <;> simp
  case value =>
    intro r done
    rw [ended] at done
    split at done
    · cases done
    · cases done
      exact ⟨rfl, by rw [AfterCall.identity_carriedAfter, settled]⟩
  case violation =>
    rintro inner call outer rule found rfl own here answer other
    have made : call ∈ inner ++ call :: outer := List.mem_append_right _ List.mem_cons_self
    have same := handed.identity made
    have quiet : inner.findSome? (AfterCall.violation? p.scope p.rules) = none :=
      List.findSome?_eq_none_iff.2 fun c hc => (violates c (by simp [hc])).2 (own c hc)
    have told : call.violation? p.scope p.rules = some (violation p.scope rule
        (Carried.identity carried) (Carried.identity found)) := by
      simp [AfterCall.violation?, answer, here, same, settled, other]
    rw [ended, List.findSome?_append, quiet, Option.none_or, List.findSome?_cons, told]
    rfl

/-- Rules that do not panic are entered in order, up to the first that refuses. From whatever world their
scope leaves, they are unwound from there, the innermost first: each is handed what the rules inside it
have made of the settled value, where those that fail or give another identity make nothing of it. What
the last of them leaves comes out just where none gave another identity; otherwise the innermost that did
is told of, with the identity it should have kept and the one it gave. -/
theorem stages_compose (calm : ∀ rule ∈ p.rules, rule.IsCalm) (w : W) :
    ∃ entered calls v, p.enter ctx w = (.done entered, v) ∧
      Path (BeforeCall.Leads p.rules ctx) w calls v ∧ p.Descends entered calls ∧
      ∀ (carried : R) (u : W), ∃ after, p.Unwinds ctx carried entered.depth u after := by
  obtain ⟨entered, calls, v, ended, path, descends⟩ := exists_enter_calls ctx calm w
  exact ⟨entered, calls, v, ended, path, descends, fun carried u =>
    exists_unwinds ctx carried calm descends.depth_le u⟩

end Pipeline

namespace Sample

/-- A rule that keeps a log of its calls, with fixed answers. -/
def logging (name : String) (entry : Except Reason Unit)
    (annotated : TestResult → Except Reason TestResult) : Rule (List String) Unit TestResult where
  name := name
  before _ := fun log => (.ofExcept entry, log ++ [name ++ " in"])
  after _ r := fun log => (.ofExcept (annotated r), log ++ [name ++ " out"])

/-- The result with another pool. -/
def moved (pool : String) (r : TestResult) : TestResult :=
  { r with identity := { r.identity with pool := ⟨pool⟩ } }

/-- Two rules that move the result, one that annotates it, one that breaks, and one that refuses. -/
def mixed : Pipeline (List String) Unit TestResult :=
  ⟨.attempt,
    [logging "far" (.ok ()) (.ok ∘ moved "far"),
      logging "note" (.ok ()) fun r => .ok { r with trace := some "noted" },
      logging "near" (.ok ()) (.ok ∘ moved "near"),
      logging "break" (.ok ()) fun _ => .error (.ofMessage "broken"),
      logging "refuse" (.error (.ofMessage "refused")) .ok,
      logging "last" (.ok ()) .ok]⟩

theorem isCalm_logging (name : String) (entry : Except Reason Unit)
    (annotated : TestResult → Except Reason TestResult) :
    (logging name entry annotated).IsCalm := by
  have calm {α : Type} (answer : Except Reason α) (m : String) :
      Outcome.ofExcept answer ≠ .panicked m := by
    cases answer <;> nofun
  exact ⟨fun _ _ m => calm entry m, fun _ r _ m => calm (annotated r) m⟩

theorem isCalm_mixed : ∀ rule ∈ mixed.rules, rule.IsCalm := by
  intro rule hr
  simp only [mixed, List.mem_cons, List.not_mem_nil, or_false] at hr
  rcases hr with rfl | rfl | rfl | rfl | rfl | rfl <;> exact isCalm_logging _ _ _

end Sample

open Sample in
/-- Four of six rules are entered. On the way out the innermost of them breaks, two give another identity,
and the inner of these is told of. -/
theorem stages_of_mixed :
    (∀ rule ∈ mixed.rules, rule.IsCalm) ∧
      (∃ calls, mixed.Descends
        ⟨4, some (.before .attempt "refuse" (.ofMessage "refused"))⟩ calls) ∧
      ∃ after, mixed.Unwinds () default 4 ["body"] after ∧
        (mixed.unwind () default 4 ["body"]).1 = .failed (.identityChanged .attempt "near"
          (TestResult.identity default).text (moved "near" default).identity.text) ∧
        (mixed.unwind () default 4 ["body"]).2 =
          ["body", "break out", "near out", "note out", "far out"] := by
  obtain ⟨entered, calls, v, ended, path, descends, unwinds⟩ :=
    Pipeline.stages_compose () isCalm_mixed []
  cases ended
  obtain ⟨after, unwound⟩ := unwinds default ["body"]
  exact ⟨isCalm_mixed, ⟨calls, descends⟩, after, unwound, rfl, rfl⟩

end TestFleet
