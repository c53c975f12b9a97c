import Mathlib.Data.List.Nodup
import Mathlib.Data.List.Perm.Basic
import TestFleet.Proofs.Order.FirstOfEach
import TestFleet.Work.Queue
/-!
# Laws of the work queue

What each operation of a queue does, said without its definition. `claim?_eq_some_iff` and
`claim?_eq_none_iff` say which item a device is given, `offer_eq_ok_iff` and its companions when an
item is taken in. An operation keeps the tests of the queued items apart (`Distinct`).
-/
namespace TestFleet

namespace WorkItem

/-- No two items of the list are items of the same test. -/
def Distinct (items : List WorkItem) : Prop := (items.map key).Nodup

instance (items : List WorkItem) : Decidable (Distinct items) :=
  inferInstanceAs (Decidable (items.map key).Nodup)

theorem distinct_append {xs ys : List WorkItem} :
    Distinct (xs ++ ys) ↔
      Distinct xs ∧ Distinct ys ∧ ∀ x ∈ xs, ∀ y ∈ ys, x.key ≠ y.key := by
  unfold Distinct
  rw [List.map_append, List.nodup_append]
  simp only [List.mem_map, forall_exists_index, and_imp, forall_apply_eq_imp_iff₂]

theorem Distinct.sublist {xs ys : List WorkItem} (h : Distinct ys) (s : xs.Sublist ys) :
    Distinct xs :=
  List.Nodup.sublist (s.map key) h

end WorkItem

namespace WorkQueue

open WorkItem (Distinct)

section TakeFirst

variable {α : Type} {p : α → Bool} {xs rest : List α} {a : α}

theorem takeFirst?_eq_none_iff : takeFirst? p xs = none ↔ ∀ x ∈ xs, p x = false := by
  induction xs with
  | nil => simp [takeFirst?]
  | cons x xs ih =>
    by_cases hx : p x = true
    · simp [takeFirst?, hx]
    · simp [takeFirst?, hx, ih]

/-- The element that is taken is the first that satisfies the test; the rest keeps its order. -/
theorem takeFirst?_eq_some_iff :
    takeFirst? p xs = some (a, rest) ↔
      ∃ ahead behind, xs = ahead ++ a :: behind ∧ rest = ahead ++ behind ∧ p a = true ∧
        ∀ x ∈ ahead, p x = false := by
  constructor
  · intro h
    induction xs generalizing rest with
    | nil => simp [takeFirst?] at h
    | cons x xs ih =>
      by_cases hx : p x = true
      · simp only [takeFirst?, hx, if_true, Option.some.injEq, Prod.mk.injEq] at h
        obtain ⟨rfl, rfl⟩ := h
        exact ⟨[], xs, rfl, rfl, hx, by simp⟩
      · simp only [takeFirst?, hx, Bool.false_eq_true, if_false, Option.map_eq_some_iff] at h
        obtain ⟨⟨b, r⟩, taken, pair⟩ := h
        obtain ⟨rfl, rfl⟩ := Prod.mk.inj pair
        obtain ⟨ahead, behind, rfl, rfl, hb, none_ahead⟩ := ih taken
        refine ⟨x :: ahead, behind, rfl, rfl, hb, ?_⟩
        intro y hy
        rcases List.mem_cons.1 hy with rfl | hy
        · simpa using hx
        · exact none_ahead y hy
  · rintro ⟨ahead, behind, rfl, rfl, ha, none_ahead⟩
    induction ahead with
    | nil => simp [takeFirst?, ha]
    | cons x ahead ih =>
      have hx : p x = false := none_ahead x List.mem_cons_self
      have taken := ih fun y hy => none_ahead y (List.mem_cons_of_mem _ hy)
      simp [takeFirst?, hx, taken]

end TakeFirst

theorem holds_iff {items : List WorkItem} {item : WorkItem} :
    holds items item = true ↔ item.key ∈ items.map WorkItem.key := by
  simp only [holds, List.any_eq_true, beq_iff_eq, List.mem_map]

/-! ## Repeated tests -/

/-- Beside items that are kept already, a queue keeps the first items of the other tests. -/
theorem foldl_firsts (kept items : List WorkItem) :
    items.foldl (fun kept item => if holds kept item then kept else kept ++ [item]) kept =
      kept ++ (firstOfEach WorkItem.key items).filter (·.key ∉ kept.map WorkItem.key) := by
  induction items generalizing kept with
  | nil => simp [firstOfEach]
  | cons item rest ih =>
    rw [List.foldl_cons, firstOfEach, List.filter_cons, List.filter_filter]
    by_cases held : item.key ∈ kept.map WorkItem.key
    · rw [if_pos (holds_iff.2 held), ih, if_neg (by simpa using held)]
      congr 1
      refine List.filter_congr fun other _ => ?_
      have apart (fresh : other.key ∉ kept.map WorkItem.key) : other.key ≠ item.key :=
        fun same => fresh (same ▸ held)
      by_cases fresh : other.key ∉ kept.map WorkItem.key
      · simp only [fresh, apart fresh, ne_eq, not_false_eq_true, decide_true, Bool.and_self]
      · simp only [fresh, decide_false, Bool.false_and]
    · rw [if_neg (fun h => held (holds_iff.1 h)), ih, if_pos (by simpa using held),
        List.append_assoc, List.singleton_append]
      congr 2
      refine List.filter_congr fun other _ => ?_
      simp only [List.map_append, List.map_cons, List.map_nil, List.mem_append, List.mem_singleton,
        not_or, ne_eq, Bool.decide_and]

/-- A queue keeps the first item of each test. -/
theorem firsts_eq (items : List WorkItem) :
    firsts items = firstOfEach WorkItem.key items := by
  rw [firsts, foldl_firsts]
  simp

/-- The items that are kept are of different tests. -/
theorem distinct_firsts (items : List WorkItem) : Distinct (firsts items) := by
  rw [firsts_eq]
  exact nodup_firstOfEach WorkItem.key items

/-- Nothing is dropped from a list without repetition. -/
theorem firsts_of_distinct {items : List WorkItem} (h : Distinct items) : firsts items = items := by
  rw [firsts_eq]
  exact firstOfEach_of_nodup h

theorem firsts_sublist (items : List WorkItem) : (firsts items).Sublist items := by
  rw [firsts_eq]
  exact firstOfEach_sublist WorkItem.key items

/-! ## Operations -/

variable {q q' : WorkQueue} {item : WorkItem} {d : DeviceId}

theorem claim?_eq_none_iff : q.claim? d = none ↔ ∀ x ∈ q.items, x.compatible d = false := by
  rw [claim?, Option.map_eq_none_iff, takeFirst?_eq_none_iff]

/-- A device is given the first item that it may run, and the others keep their order. -/
theorem claim?_eq_some_iff :
    q.claim? d = some (item, q') ↔
      ∃ ahead behind, q.items = ahead ++ item :: behind ∧ q' = ⟨ahead ++ behind, q.inFlight + 1⟩ ∧
        item.compatible d = true ∧ ∀ x ∈ ahead, x.compatible d = false := by
  rw [claim?, Option.map_eq_some_iff]
  constructor
  · rintro ⟨⟨a, rest⟩, taken, pair⟩
    obtain ⟨rfl, rfl⟩ := Prod.mk.inj pair
    obtain ⟨ahead, behind, items, rfl, ha, none_ahead⟩ := takeFirst?_eq_some_iff.1 taken
    exact ⟨ahead, behind, items, rfl, ha, none_ahead⟩
  · rintro ⟨ahead, behind, items, rfl, ha, none_ahead⟩
    exact ⟨(item, ahead ++ behind),
      takeFirst?_eq_some_iff.2 ⟨ahead, behind, items, rfl, ha, none_ahead⟩, rfl⟩

theorem perm_of_claim? (h : q.claim? d = some (item, q')) : q.items.Perm (item :: q'.items) := by
  obtain ⟨ahead, behind, items, rfl, -⟩ := claim?_eq_some_iff.1 h
  rw [items]
  exact List.perm_middle

theorem sublist_of_claim? (h : q.claim? d = some (item, q')) : q'.items.Sublist q.items := by
  obtain ⟨ahead, behind, items, rfl, -⟩ := claim?_eq_some_iff.1 h
  rw [items]
  exact (List.Sublist.refl ahead).append (List.sublist_cons_self item behind)

theorem offer_eq_ok_iff :
    q.offer item = .ok q' ↔
      q.inFlight ≠ 0 ∧ item.key ∉ q.items.map WorkItem.key ∧
        q' = ⟨q.items ++ [item], q.inFlight⟩ := by
  unfold offer
  split
  · simp_all
  · split
    · rename_i h
      simp [holds_iff.1 h]
    · rename_i h
      rw [holds_iff] at h
      simp_all [eq_comm]

theorem offer_eq_notInFlight_iff {text : String} :
    q.offer item = .error (.notInFlight text) ↔ q.inFlight = 0 ∧ text = item.test.display := by
  unfold offer
  split
  · simp_all [eq_comm]
  · split <;> simp_all

theorem offer_eq_duplicate_iff {text : String} :
    q.offer item = .error (.duplicate text) ↔
      q.inFlight ≠ 0 ∧ item.key ∈ q.items.map WorkItem.key ∧ text = item.test.display := by
  unfold offer
  split
  · simp_all
  · split
    · rename_i h
      rw [holds_iff] at h
      simp_all [eq_comm]
    · rename_i h
      rw [holds_iff] at h
      simp_all

theorem release?_eq_some_iff :
    q.release? = some q' ↔ q.inFlight = q'.inFlight + 1 ∧ q'.items = q.items := by
  unfold release?
  obtain ⟨items', n'⟩ := q'
  cases q.inFlight with
  | zero => simp
  | succ n => simp [eq_comm, and_comm]

theorem release?_eq_none_iff : q.release? = none ↔ q.inFlight = 0 := by
  unfold release?
  cases q.inFlight <;> simp

theorem exhaustedFor_iff :
    q.exhaustedFor d = true ↔ q.inFlight = 0 ∧ ∀ x ∈ q.items, x.compatible d = false := by
  simp [exhaustedFor]

end WorkQueue

end TestFleet
