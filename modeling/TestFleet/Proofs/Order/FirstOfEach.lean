import Mathlib.Data.List.Nodup
/-!
# The first of each key

`firstOfEach` leaves of a list the elements whose key no earlier element has. They are some of the
list, in its order (`firstOfEach_sublist`), of different keys (`nodup_firstOfEach`), and every key
of the list is among theirs (`mem_map_firstOfEach`).
-/
namespace TestFleet

variable {α β κ : Type} [DecidableEq κ] {key : α → κ} {xs : List α} {a : α}

/-- The elements of a list whose key no earlier element has, in order. -/
def firstOfEach (key : α → κ) : List α → List α
  | [] => []
  | a :: rest => a :: (firstOfEach key rest).filter (key · ≠ key a)

theorem firstOfEach_sublist (key : α → κ) (xs : List α) : (firstOfEach key xs).Sublist xs := by
  induction xs with
  | nil => exact .slnil
  | cons a rest ih => exact (List.filter_sublist.trans ih).cons_cons a

/-- No two of the elements have the same key. -/
theorem nodup_firstOfEach (key : α → κ) (xs : List α) : ((firstOfEach key xs).map key).Nodup := by
  induction xs with
  | nil => exact .nil
  | cons a rest ih =>
    rw [firstOfEach, List.map_cons, List.nodup_cons]
    constructor
    · intro repeated
      obtain ⟨b, hb, same⟩ := List.mem_map.1 repeated
      exact of_decide_eq_true (List.mem_filter.1 hb).2 same
    · exact ih.sublist (List.filter_sublist.map key)

/-- Every key of the list is the key of one of the elements. -/
theorem mem_map_firstOfEach {k : κ} : k ∈ (firstOfEach key xs).map key ↔ k ∈ xs.map key := by
  induction xs with
  | nil => rfl
  | cons a rest ih =>
    by_cases same : k = key a
    · simp [firstOfEach, same]
    · rw [firstOfEach, List.map_cons, List.map_cons, List.mem_cons, List.mem_cons, ← ih]
      simp only [same, false_or, List.mem_map, List.mem_filter, decide_eq_true_iff]
      grind

theorem firstOfEach_map (key : β → κ) (f : α → β) (xs : List α) :
    firstOfEach key (xs.map f) = (firstOfEach (key ∘ f) xs).map f := by
  induction xs with
  | nil => rfl
  | cons a rest ih =>
    rw [List.map_cons, firstOfEach, ih, firstOfEach, List.map_cons, List.filter_map]
    rfl

/-- Nothing is dropped where no key is repeated. -/
theorem firstOfEach_of_nodup (apart : (xs.map key).Nodup) : firstOfEach key xs = xs := by
  induction xs with
  | nil => rfl
  | cons a rest ih =>
    rw [List.map_cons, List.nodup_cons] at apart
    rw [firstOfEach, ih apart.2]
    congr 1
    refine List.filter_eq_self.2 fun b hb => decide_eq_true fun same => ?_
    exact apart.1 (same ▸ List.mem_map_of_mem hb)

end TestFleet
