import TestFleet.Proofs.Rule.Calls
import TestFleet.Work.Item
/-!
# Places and what is called there

A `Place` is an instance of a scope: the run, a pool, a device or an attempt. Calls of rules are made
at a place, and those of a backend in an attempt. The calls at a place are `Bracketed` if its rules
were entered, then everything inside was called, and then those that were entered were left in reverse.
A scope that goes on is first `Untouched`, then `Opened`, then bracketed (`Untouched.enter`,
`Opened.leave`); calls elsewhere change none of this (`Untouched.after`).
-/
namespace TestFleet

/-- An instance of a scope. -/
inductive Place where
  | run
  | pool (i : Nat)
  | device (i j : Nat)
  /-- What a worker attempts for the so-and-so-manieth time: at an item, from a moment on. -/
  | attempt (i j n : Nat) (item : WorkItem) (started : Time.Moment)
  deriving DecidableEq

namespace Place

/-- Whether a place lies inside another. -/
def isInside (place : Place) : Place → Bool
  | .run => place != .run
  | .pool i =>
    match place with
    | .device i' _ | .attempt i' .. => i' == i
    | _ => false
  | .device i j =>
    match place with
    | .attempt i' j' .. => i' == i && j' == j
    | _ => false
  | .attempt .. => false

/-- Whether a place is another or lies inside it. -/
def isWithin (place other : Place) : Bool := place == other || place.isInside other

/-- Neither of two places is within the other. -/
def Apart (p q : Place) : Prop := p.isWithin q = false ∧ q.isWithin p = false

/-- How many scopes are around a place. -/
@[simp]
def level : Place → Nat
  | .run => 0
  | .pool _ => 1
  | .device .. => 2
  | .attempt .. => 3

variable {p q r : Place}

/-- Places that something is within are one within the other. -/
theorem isWithin_or_of_isWithin (hq : p.isWithin q = true) (hr : p.isWithin r = true) :
    q.isWithin r = true ∨ r.isWithin q = true := by
  cases p <;> cases q <;> cases r <;> simp_all [isWithin, isInside]

theorem isWithin_trans (hq : p.isWithin q = true) (hr : q.isWithin r = true) :
    p.isWithin r = true := by
  cases p <;> cases q <;> cases r <;> simp_all [isWithin, isInside]

theorem device_isWithin_pool {i j : Nat} : (device i j).isWithin (.pool i) = true := by
  simp [isWithin, isInside]

theorem attempt_isWithin_device {i j n : Nat} {item : WorkItem} {started : Time.Moment} :
    (attempt i j n item started).isWithin (.device i j) = true := by
  simp [isWithin, isInside]

/-- No place is within one that more scopes are around. -/
theorem not_isWithin_of_level (less : p.level < q.level) : p.isWithin q = false := by
  cases p <;> cases q <;> simp_all [isWithin, isInside]

/-- Different places that as many scopes are around are apart. -/
theorem apart_of_level (same : p.level = q.level) (differs : p ≠ q) : p.Apart q := by
  have inside : p.isInside q = false ∧ q.isInside p = false := by
    cases p <;> cases q <;> simp_all [isInside]
  constructor
  · simp [isWithin, inside, differs]
  · simp [isWithin, inside, differs.symm]

end Place

/-- What is called. -/
inductive Event where
  | rule (place : Place) (stage : Nat) (act : Act)
  /-- A backend is called in an attempt. -/
  | backend (place : Place)
  /-- The reporter is told something. -/
  | told
  deriving DecidableEq

namespace Event

/-- Whether a rule of the place is called. -/
def isOf (place : Place) : Event → Bool
  | .rule p .. => p == place
  | .backend _ | .told => false

/-- Whether something is called inside the scope of the place. -/
def isInside (place : Place) : Event → Bool
  | .rule p .. => p.isInside place
  | .backend p => p.isWithin place
  | .told => false

/-- Whether something is called at the place or inside its scope. -/
def isWithin (place : Place) (e : Event) : Bool := e.isOf place || e.isInside place

variable {p q : Place} {e : Event}

/-- What is called within a place is not called within another that is apart. -/
theorem not_isWithin_of_apart (within : e.isWithin p = true) (apart : p.Apart q) :
    e.isWithin q = false := by
  refine Bool.eq_false_iff.2 fun within' => ?_
  have compare (place : Place) (hp : place.isWithin p = true) (hq : place.isWithin q = true) : False := by
    rcases Place.isWithin_or_of_isWithin hp hq with pq | qp
    · simp [apart.1] at pq
    · simp [apart.2] at qp
  cases e with
  | rule place => exact compare place within within'
  | backend place => exact compare place within within'
  | told => cases within

/-- What is called within a place is called within those around it. -/
theorem isWithin_of_isWithin (within : e.isWithin p = true) (pq : p.isWithin q = true) :
    e.isWithin q = true := by
  cases e with
  | rule place => exact Place.isWithin_trans within pq
  | backend place => exact Place.isWithin_trans within pq
  | told => cases within

/-- What is called within a place is no rule of a place outside it. -/
theorem not_isOf_of_isWithin (within : e.isWithin p = true) (outside : q.isWithin p = false) :
    e.isOf q = false := by
  cases e with
  | rule place =>
    refine beq_eq_false_iff_ne.2 fun same => ?_
    subst same
    exact absurd within (by simpa [isWithin, isOf, isInside, Place.isWithin] using outside)
  | backend | told => rfl

end Event

/-- The rules of the place being called. -/
def Place.events (place : Place) (acts : List (Nat × Act)) : List Event :=
  acts.map fun (stage, act) => .rule place stage act

theorem Place.isOf_of_mem_events {place : Place} {acts : List (Nat × Act)} {e : Event}
    (he : e ∈ place.events acts) : e.isOf place = true := by
  obtain ⟨_, -, rfl⟩ := List.mem_map.1 he
  simp [Event.isOf]

theorem Place.isWithin_of_mem_events {place : Place} {acts : List (Nat × Act)} {e : Event}
    (he : e ∈ place.events acts) : e.isWithin place = true := by
  simp [Event.isWithin, isOf_of_mem_events he]

theorem Place.filter_events (place : Place) (acts : List (Nat × Act)) :
    (place.events acts).filter (·.isWithin place) = place.events acts :=
  List.filter_eq_self.2 fun _ he => isWithin_of_mem_events he

/-! ## How a scope goes on -/

/-- Nothing is called at the place or inside its scope. -/
def Untouched (place : Place) (events : List Event) : Prop := ∀ e ∈ events, e.isWithin place = false

/-- The rules of the place were entered: so many, and one refused unless these were all. Nothing was
called inside before that, and nothing at all if one refused. -/
def Opened (place : Place) (depth : Nat) (full : Bool) (events : List Event) : Prop :=
  ∃ inner, events.filter (·.isWithin place) = place.events (Pipeline.entering depth full) ++ inner ∧
    (∀ e ∈ inner, e.isInside place = true) ∧ (full = false → inner = [])

/-- **The calls at a place are bracketed**: some rules were entered, and one refused unless these were
all; what was called inside came next, if none refused; then the rules that were entered were left
in reverse. -/
def Bracketed (place : Place) (events : List Event) : Prop :=
  ∃ depth full inner, events.filter (·.isWithin place) =
      place.events (Pipeline.entering depth full) ++ inner ++ place.events (Pipeline.leaving depth) ∧
    (∀ e ∈ inner, e.isInside place = true) ∧ (full = false → inner = [])

section Standing

variable {p q : Place} {depth : Nat} {full : Bool} {events es : List Event}

theorem Untouched.nil : Untouched p [] := nofun

theorem Untouched.filter (untouched : Untouched p events) :
    events.filter (·.isWithin p) = [] :=
  List.filter_eq_nil_iff.2 fun e he => by simp [untouched e he]

theorem untouched_append : Untouched p (events ++ es) ↔ Untouched p events ∧ Untouched p es :=
  List.forall_mem_append

/-- Where nothing is called nothing is called inside. -/
theorem Untouched.inside (untouched : Untouched q events) (pq : p.isWithin q = true) :
    Untouched p events := fun e he => by
  refine Bool.eq_false_iff.2 fun within => ?_
  simpa [untouched e he] using Event.isWithin_of_isWithin within pq

/-- Calls of the reporter or within a place leave those that are apart untouched. -/
theorem untouched_of_apart (within : ∀ e ∈ events, e = .told ∨ e.isWithin p = true)
    (apart : p.Apart q) : Untouched q events := fun e he => by
  rcases within e he with rfl | within
  · rfl
  · exact Event.not_isWithin_of_apart within apart

/-- Calls of the rules of a place leave the places inside it untouched. -/
theorem untouched_events {acts : List (Nat × Act)} (outside : p.isWithin q = false) :
    Untouched q (p.events acts) := fun e he => by
  obtain ⟨_, -, rfl⟩ := List.mem_map.1 he
  exact outside

theorem filter_after (untouched : Untouched p es) :
    (events ++ es).filter (·.isWithin p) = events.filter (·.isWithin p) := by
  rw [List.filter_append, untouched.filter, List.append_nil]

/-- A scope that is open stays as it is while others are called. -/
theorem Opened.after (opened : Opened p depth full events) (untouched : Untouched p es) :
    Opened p depth full (events ++ es) := by
  unfold Opened
  rwa [filter_after untouched]

/-- A scope that is over stays as it is while others are called. -/
theorem Bracketed.after (bracketed : Bracketed p events) (untouched : Untouched p es) :
    Bracketed p (events ++ es) := by
  unfold Bracketed
  rwa [filter_after untouched]

/-- A scope may be begun and left after others were called. -/
theorem Untouched.before (untouched : Untouched p events) (bracketed : Bracketed p es) :
    Bracketed p (events ++ es) := by
  unfold Bracketed
  rwa [List.filter_append, untouched.filter, List.nil_append]

/-- A scope that was not begun was not left open either. -/
theorem Untouched.bracketed (untouched : Untouched p events) : Bracketed p events :=
  ⟨0, true, [], untouched.filter, nofun, nofun⟩

theorem Untouched.enter (untouched : Untouched p events) :
    Opened p depth full (events ++ p.events (Pipeline.entering depth full)) := by
  refine ⟨[], ?_, nofun, fun _ => rfl⟩
  rw [List.filter_append, untouched.filter, Place.filter_events, List.nil_append, List.append_nil]

/-- In a scope of which all rules were entered, others are called. -/
theorem Opened.call (opened : Opened p depth true events) (others : ∀ e ∈ es, e.isOf p = false) :
    Opened p depth true (events ++ es) := by
  obtain ⟨inner, eq, inside, -⟩ := opened
  refine ⟨inner ++ es.filter (·.isWithin p), ?_, fun e he => ?_, nofun⟩
  · rw [List.filter_append, eq, List.append_assoc]
  · rcases List.mem_append.1 he with he | he
    · exact inside e he
    · obtain ⟨he, within⟩ := List.mem_filter.1 he
      simpa [Event.isWithin, others e he] using within

theorem Opened.leave (opened : Opened p depth full events) :
    Bracketed p (events ++ p.events (Pipeline.leaving depth)) := by
  obtain ⟨inner, eq, inside, none⟩ := opened
  refine ⟨depth, full, inner, ?_, inside, none⟩
  rw [List.filter_append, eq, Place.filter_events]

theorem Place.isInside_self (place : Place) : place.isInside place = false := by
  cases place <;> simp [isInside]

theorem Place.mem_events {acts : List (Nat × Act)} {k : Nat} {act : Act} :
    .rule p k act ∈ p.events acts ↔ (k, act) ∈ acts := by
  simp [Place.events]

/-- The rules of a place that are left are those that were entered. -/
theorem Bracketed.left_iff_entered (bracketed : Bracketed p events) (k : Nat) :
    .rule p k .left ∈ events ↔ .rule p k .entered ∈ events := by
  obtain ⟨depth, full, inner, eq, inside, -⟩ := bracketed
  have own (act : Act) : (Event.rule p k act).isWithin p = true := by
    simp [Event.isWithin, Event.isOf]
  have notInner (act : Act) : .rule p k act ∉ inner := fun there => by
    have inside := inside _ there
    simp [Event.isInside, Place.isInside_self] at inside
  have mem (act : Act) : .rule p k act ∈ events ↔
      (k, act) ∈ Pipeline.entering depth full ∨ (k, act) ∈ Pipeline.leaving depth := by
    have there : .rule p k act ∈ events ↔ .rule p k act ∈ events.filter (·.isWithin p) := by
      rw [List.mem_filter, and_iff_left (own act)]
    rw [there, eq, List.mem_append, List.mem_append, Place.mem_events, Place.mem_events,
      or_iff_left (notInner act)]
  rw [mem, mem]
  cases full <;> simp [Pipeline.entering, Pipeline.leaving]

end Standing

end TestFleet
