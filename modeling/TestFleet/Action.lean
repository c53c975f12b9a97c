/-!
# Actions and how they end

Rules, backends and other components act on a world. An action is done with a value, fails for a
reason, or panics; in each case it leaves a world behind. `Action` is a function, so that what an
action does is what it returns.
-/
namespace TestFleet

/-- Why something failed: what went wrong, then the causes, each that of the one before. -/
structure Reason where
  message : String
  causes : List String
  deriving DecidableEq, Repr, Inhabited

namespace Reason

/-- A reason without a deeper cause. -/
def ofMessage (message : String) : Reason := ⟨message, []⟩

/-- A reason that is caused by another. -/
def above (message : String) (cause : Reason) : Reason := ⟨message, cause.message :: cause.causes⟩

/-- The reason with all its causes. -/
def text (r : Reason) : String := ": ".intercalate (r.message :: r.causes)

end Reason

/-- How something ended. -/
inductive Outcome (ε α : Type) where
  | done (value : α)
  | failed (error : ε)
  | panicked (message : String)
  deriving DecidableEq, Repr, Inhabited

namespace Outcome

variable {ε ε' α β : Type}

/-- The outcome with its value changed. -/
def map (f : α → β) : Outcome ε α → Outcome ε β
  | .done a => .done (f a)
  | .failed e => .failed e
  | .panicked m => .panicked m

/-- The outcome with its error changed. -/
def mapError (f : ε → ε') : Outcome ε α → Outcome ε' α
  | .done a => .done a
  | .failed e => .failed (f e)
  | .panicked m => .panicked m

/-- One step and then another, if the first is done. -/
def andThen (o : Outcome ε α) (f : α → Outcome ε β) : Outcome ε β :=
  match o with
  | .done a => f a
  | .failed e => .failed e
  | .panicked m => .panicked m

/-- What each of several steps gives, in order, if all are done. -/
def collect (f : α → Outcome ε β) : List α → Outcome ε (List β)
  | [] => .done []
  | a :: rest => (f a).andThen fun b => (collect f rest).map (b :: ·)

/-- What ends well or fails, without panic. -/
def ofExcept : Except ε α → Outcome ε α
  | .ok a => .done a
  | .error e => .failed e

end Outcome

/-- Something that acts on a world and then ends. -/
def Action (W ε α : Type) : Type := W → Outcome ε α × W

namespace Action

variable {W ε ε' α β : Type}

/-- An action that is done at once. -/
def give (a : α) : Action W ε α := fun w => (.done a, w)

/-- An action that fails at once. -/
def fail (e : ε) : Action W ε α := fun w => (.failed e, w)

/-- An action that panics at once. -/
def crash (message : String) : Action W ε α := fun w => (.panicked message, w)

/-- An action with a given end. -/
def ofOutcome (o : Outcome ε α) : Action W ε α := fun w => (o, w)

/-- One action and then another, if the first is done. -/
def andThen (x : Action W ε α) (f : α → Action W ε β) : Action W ε β := fun w =>
  match x w with
  | (.done a, w) => f a w
  | (.failed e, w) => (.failed e, w)
  | (.panicked m, w) => (.panicked m, w)

instance : Monad (Action W ε) where
  pure := give
  bind := andThen

/-- The action with its errors changed. -/
def mapError (f : ε → ε') (x : Action W ε α) : Action W ε' α := fun w =>
  let (o, w) := x w
  (o.mapError f, w)

/-- The end of an action as a value: only a panic goes on. -/
def attempt (x : Action W ε α) : Action W ε' (Except ε α) := fun w =>
  match x w with
  | (.done a, w) => (.done (.ok a), w)
  | (.failed e, w) => (.done (.error e), w)
  | (.panicked m, w) => (.panicked m, w)

/-- The end of an action as a value, panics included. -/
def contain (x : Action W ε α) : Action W ε' (Outcome ε α) := fun w =>
  let (o, w) := x w
  (.done o, w)

/-- The world as it is. -/
def world : Action W ε W := fun w => (.done w, w)

/-- A change of the world. -/
def change (f : W → W) : Action W ε Unit := fun w => (.done (), f w)

/-- The actions one after the other, for as long as they are done. -/
def each (f : α → Action W ε Unit) : List α → Action W ε Unit
  | [] => give ()
  | a :: rest => (f a).andThen fun _ => each f rest

/-- The values of actions done one after the other. -/
def collect (f : α → Action W ε β) : List α → Action W ε (List β)
  | [] => give []
  | a :: rest => (f a).andThen fun b => (collect f rest).andThen fun bs => give (b :: bs)

end Action

end TestFleet
