import TestFleet.Rule
import TestFleet.Scope
/-!
# Pipelines of rules

The rules of a scope are entered in order and unwound in reverse. A rule whose `before` fails ends
the descent, and only the rules entered so far are unwound. A rule whose `after` fails contributes
nothing; one that changes the identity contributes nothing either, and the first such rule is what
the unwinding fails with once all rules are unwound. A panic leaves the pipeline at once.
-/
namespace TestFleet

/-- What goes wrong in a pipeline. -/
inductive PipelineError where
  /-- A rule failed before the scope. -/
  | before (scope : Scope) (rule : String) (reason : Reason)
  /-- A rule or a backend changed the identity of what is carried. -/
  | identityChanged (scope : Scope) (stage expected actual : String)
  deriving DecidableEq, Repr, Inhabited

namespace PipelineError

/-- Whether the error ends the whole run, wherever it comes up. -/
def isFatal : PipelineError → Bool
  | .before .. => false
  | .identityChanged .. => true

/-- The error as people read it. -/
def message : PipelineError → String
  | .before scope rule reason =>
    scope.name ++ " rule '" ++ rule ++ "' failed before: " ++ reason.text
  | .identityChanged scope stage expected actual =>
    scope.name ++ " stage '" ++ stage ++ "' changed result identity from " ++ expected ++ " to "
      ++ actual

end PipelineError

/-- How far a scope was entered. -/
structure Entered where
  /-- The number of rules whose `before` was done. -/
  depth : Nat
  failure : Option PipelineError
  deriving DecidableEq, Repr, Inhabited

/-- Whether all rules were entered. -/
def Entered.isComplete (e : Entered) : Bool := e.failure.isNone

/-- The rules of a scope. -/
structure Pipeline (W C R : Type) where
  scope : Scope
  rules : List (Rule W C R)

namespace Pipeline

variable {W C R : Type}

/-- The names of the rules. -/
def names (p : Pipeline W C R) : List String := p.rules.map (·.name)

/-- Enters rules, `depth` others having been entered. -/
def enterFrom (scope : Scope) (ctx : C) (depth : Nat) :
    List (Rule W C R) → Action W PipelineError Entered
  | [] => .give ⟨depth, none⟩
  | rule :: rest => fun w =>
    match rule.before ctx w with
    | (.done _, w) => enterFrom scope ctx (depth + 1) rest w
    | (.failed reason, w) => (.done ⟨depth, some (.before scope rule.name reason)⟩, w)
    | (.panicked m, w) => (.panicked m, w)

/-- Does what the rules do before their scope, in order, up to the first that fails. -/
def enter (p : Pipeline W C R) (ctx : C) : Action W PipelineError Entered :=
  enterFrom p.scope ctx 0 p.rules

/-- What has come of the rules unwound so far. -/
structure Unwinding (R : Type) where
  carried : R
  violation : Option PipelineError

variable [Carried R]

/-- What a rule that changed the identity did wrong. -/
def violation (scope : Scope) (rule : Rule W C R) (expected actual : Carried.Identity R) :
    PipelineError :=
  .identityChanged scope rule.name (Carried.describe expected) (Carried.describe actual)

/-- Unwinds one rule. -/
def unwindRule (scope : Scope) (ctx : C) (rule : Rule W C R) (so : Unwinding R) :
    Action W PipelineError (Unwinding R) := fun w =>
  match rule.after ctx so.carried w with
  | (.done annotated, w) =>
    let expected := Carried.identity so.carried
    let actual := Carried.identity annotated
    if actual = expected then (.done { so with carried := annotated }, w)
    else
      let found := so.violation.getD (violation scope rule expected actual)
      (.done { so with violation := some found }, w)
  | (.failed _, w) => (.done so, w)
  | (.panicked m, w) => (.panicked m, w)

/-- Unwinds rules in the order given. -/
def unwindAll (scope : Scope) (ctx : C) :
    List (Rule W C R) → Unwinding R → Action W PipelineError (Unwinding R)
  | [], so => .give so
  | rule :: rest, so => (unwindRule scope ctx rule so).andThen (unwindAll scope ctx rest)

/-- Settles a value and carries it out through the rules entered, the last one first. -/
def unwind (p : Pipeline W C R) (ctx : C) (carried : R) (depth : Nat) :
    Action W PipelineError R :=
  (unwindAll p.scope ctx (p.rules.take depth).reverse ⟨Carried.settle carried, none⟩).andThen
    fun so =>
      match so.violation with
      | some e => .fail e
      | none => .give so.carried

/-- Unwinds the rules of a scope that is given up: what comes of it does not matter. -/
def release {ε : Type} (p : Pipeline W C R) (ctx : C) (carried : R) (depth : Nat) :
    Action W ε Unit := fun w =>
  match p.unwind ctx carried depth w with
  | (.panicked m, w) => (.panicked m, w)
  | (_, w) => (.done (), w)

end Pipeline

end TestFleet
