import Mathlib.Data.List.Forall2
import TestFleet.Action
/-!
# Steps that may fail

When steps that may fail are taken one after the other, the whole is done just if each of them is.
-/
namespace TestFleet

/-- What stands in one of two lists of pairs has its partner in the other. -/
theorem exists_of_forall₂ {α β : Type} {R : α → β → Prop} {xs : List α} {ys : List β} {y : β}
    (pairs : List.Forall₂ R xs ys) (hy : y ∈ ys) : ∃ x ∈ xs, R x y := by
  induction pairs with
  | nil => cases hy
  | @cons x _ _ _ first _ ih =>
    rcases List.mem_cons.1 hy with rfl | later
    · exact ⟨x, List.mem_cons_self, first⟩
    · obtain ⟨x', hx, related⟩ := ih later
      exact ⟨x', List.mem_cons_of_mem _ hx, related⟩

section Except

variable {ε α β : Type} {f : α → Except ε β}

theorem bind_eq_ok_iff {x : Except ε α} {b : β} :
    (x >>= f) = .ok b ↔ ∃ a, x = .ok a ∧ f a = .ok b := by
  cases x <;> simp [bind, Except.bind]

theorem map_eq_ok_iff {g : α → β} {x : Except ε α} {b : β} :
    x.map g = .ok b ↔ ∃ a, x = .ok a ∧ g a = b := by
  cases x <;> simp [Except.map]

theorem mapM_eq_ok_iff {xs : List α} {ys : List β} :
    xs.mapM f = .ok ys ↔ List.Forall₂ (fun x y => f x = .ok y) xs ys := by
  induction xs generalizing ys with
  | nil => simp [pure, Except.pure, eq_comm]
  | cons x rest ih =>
    rw [List.mapM_cons, bind_eq_ok_iff, List.forall₂_cons_left_iff]
    refine exists_congr fun y => ?_
    simp only [bind_eq_ok_iff, ih, pure, Except.pure, Except.ok.injEq]
    grind

/-- Steps that fail as one fail as the first of them that does. -/
theorem exists_of_mapM_error {xs : List α} {e : ε} (h : xs.mapM f = .error e) :
    ∃ ahead x behind, xs = ahead ++ x :: behind ∧ (∀ y ∈ ahead, ∃ b, f y = .ok b) ∧
      f x = .error e := by
  induction xs with
  | nil => cases h
  | cons x rest ih =>
    rw [List.mapM_cons] at h
    cases first : f x with
    | error e' =>
      rw [first] at h
      cases h
      exact ⟨[], x, rest, rfl, by simp, first⟩
    | ok b =>
      cases others : rest.mapM f with
      | ok bs =>
        rw [first, others] at h
        cases h
      | error e' =>
        rw [first, others] at h
        cases h
        obtain ⟨ahead, y, behind, rfl, fine, failed⟩ := ih others
        exact ⟨x :: ahead, y, behind, rfl, List.forall_mem_cons.2 ⟨⟨b, first⟩, fine⟩, failed⟩

/-- Steps are done as one just if each of them is. -/
theorem exists_mapM_eq_ok_iff {xs : List α} :
    (∃ ys, xs.mapM f = .ok ys) ↔ ∀ x ∈ xs, ∃ y, f x = .ok y := by
  constructor
  · rintro ⟨ys, h⟩ x hx
    have pairs : List.Forall₂ (fun y x => f x = .ok y) ys xs := (mapM_eq_ok_iff.1 h).flip
    obtain ⟨y, -, own⟩ := exists_of_forall₂ pairs hx
    exact ⟨y, own⟩
  · intro each
    cases h : xs.mapM f with
    | ok ys => exact ⟨ys, rfl⟩
    | error e =>
      obtain ⟨ahead, x, behind, rfl, -, failed⟩ := exists_of_mapM_error h
      obtain ⟨y, fine⟩ := each x (by simp)
      cases failed.symm.trans fine

end Except

namespace Outcome

variable {ε ε' α β : Type} {f : α → Outcome ε β} {xs : List α} {ys : List β}

theorem map_eq_done_iff {g : α → β} {o : Outcome ε α} {b : β} :
    o.map g = .done b ↔ ∃ a, o = .done a ∧ g a = b := by
  cases o <;> simp [map]

theorem mapError_eq_done_iff {g : ε → ε'} {o : Outcome ε α} {a : α} :
    o.mapError g = .done a ↔ o = .done a := by
  cases o <;> simp [mapError]

theorem andThen_eq_done_iff {o : Outcome ε α} {b : β} :
    o.andThen f = .done b ↔ ∃ a, o = .done a ∧ f a = .done b := by
  cases o <;> simp [andThen]

theorem ofExcept_eq_done_iff {x : Except ε α} {a : α} : ofExcept x = .done a ↔ x = .ok a := by
  cases x <;> simp [ofExcept]

theorem map_eq_panicked_iff {g : α → β} {o : Outcome ε α} {m : String} :
    o.map g = .panicked m ↔ o = .panicked m := by
  cases o <;> simp [map]

theorem collect_congr {g : α → Outcome ε β} (same : ∀ x ∈ xs, f x = g x) :
    collect f xs = collect g xs := by
  induction xs with
  | nil => rfl
  | cons x rest ih =>
    obtain ⟨first, others⟩ := List.forall_mem_cons.1 same
    rw [collect, collect, first, ih others]

theorem collect_append (f : α → Outcome ε β) (xs ys : List α) :
    collect f (xs ++ ys) =
      (collect f xs).andThen fun early => (collect f ys).map (early ++ ·) := by
  induction xs with
  | nil => cases h : collect f ys <;> simp [collect, andThen, map, h]
  | cons x rest ih =>
    rw [List.cons_append, collect, collect, ih]
    cases f x <;> cases collect f rest <;> cases collect f ys <;> simp [andThen, map]

/-- Several steps are done when each is, and give what each gives. -/
theorem collect_eq_done_iff :
    collect f xs = .done ys ↔ List.Forall₂ (fun x y => f x = .done y) xs ys := by
  induction xs generalizing ys with
  | nil => simp [collect, eq_comm]
  | cons x rest ih =>
    rw [collect, andThen_eq_done_iff, List.forall₂_cons_left_iff]
    refine exists_congr fun y => ?_
    simp only [map_eq_done_iff, ih]
    grind

/-- The step is done. -/
def IsDone (o : Outcome ε α) : Prop := ∃ a, o = .done a

theorem isDone_map_iff {g : α → β} {o : Outcome ε α} : (o.map g).IsDone ↔ o.IsDone := by
  cases o <;> simp [IsDone, map]

theorem isDone_collect_iff : (collect f xs).IsDone ↔ ∀ x ∈ xs, (f x).IsDone := by
  induction xs with
  | nil => simp [collect, IsDone]
  | cons x rest ih =>
    rw [List.forall_mem_cons, ← ih, collect]
    cases f x with
    | done y =>
      have here : (done y : Outcome ε β).IsDone := ⟨y, rfl⟩
      rw [andThen, isDone_map_iff]
      exact (and_iff_right here).symm
    | failed e => simp [andThen, IsDone]
    | panicked m => simp [andThen, IsDone]

theorem exists_of_mem_collect {y : β} (h : collect f xs = .done ys) (hy : y ∈ ys) :
    ∃ x ∈ xs, f x = .done y :=
  exists_of_forall₂ (R := fun x y => f x = .done y) (collect_eq_done_iff.1 h) hy

/-- A panic among several steps is the panic of one. -/
theorem exists_of_collect_panicked {m : String} (h : collect f xs = .panicked m) :
    ∃ x ∈ xs, f x = .panicked m := by
  induction xs with
  | nil => cases h
  | cons x rest ih =>
    unfold collect at h
    cases first : f x with
    | done y =>
      rw [first, andThen, map_eq_panicked_iff] at h
      obtain ⟨x', hx, panicked⟩ := ih h
      exact ⟨x', List.mem_cons_of_mem _ hx, panicked⟩
    | failed e =>
      rw [first] at h
      cases h
    | panicked m' =>
      rw [first] at h
      cases h
      exact ⟨x, List.mem_cons_self, first⟩

end Outcome

end TestFleet
