import Mathlib.Data.List.Basic
import TestFleet.Work.Collector
import TestFleet.Work.Retry
/-!
# Laws of retries and of superseded attempts

The next attempt at an item is an attempt at the same test, counts one failure more, and may run
nowhere that the item may not. What a collector gives back for a test is the last superseded attempt
that was kept for it; what it keeps for other tests does not change.
-/
namespace TestFleet

namespace WorkItem

variable {item next : WorkItem} {settings : RetrySettings} {pool : DevicePool} {d failed : DeviceId}
  {result : TestResult} {budget left : RetryBudget}

@[simp]
theorem test_nextAttempt : (item.nextAttempt settings failed pool).test = item.test := by
  unfold nextAttempt
  dsimp only
  split <;> rfl

@[simp]
theorem key_nextAttempt : (item.nextAttempt settings failed pool).key = item.key := by
  unfold nextAttempt
  dsimp only
  split <;> rfl

@[simp]
theorem failures_nextAttempt :
    (item.nextAttempt settings failed pool).failures = item.failures + 1 := by
  unfold nextAttempt
  dsimp only
  split <;> rfl

/-- The next attempt is open to no device that the item was closed to. -/
theorem compatible_of_compatible_nextAttempt
    (h : (item.nextAttempt settings failed pool).compatible d = true) :
    item.compatible d = true := by
  unfold nextAttempt at h
  dsimp only at h
  split at h
  · exact compatible_of_compatible_successorExcluding h
  · exact h

/-- A property of items that goes over to the next attempt, as long as the quota of a test allows
one. -/
def Inherited (settings : RetrySettings) (pool : DevicePool) (Q : WorkItem → Prop) : Prop :=
  ∀ item failed, item.failures < settings.perTest → Q item → Q (item.nextAttempt settings failed pool)

/-- What is for no device stays so. -/
theorem inherited_not_compatible : Inherited settings pool fun x => x.compatible d = false := by
  intro item failed _ none
  by_contra fits
  have fits := compatible_of_compatible_nextAttempt (Bool.of_not_eq_false fits)
  exact Bool.false_ne_true (none.symm.trans fits)

theorem mayRetry_iff {status : TestStatus} :
    item.mayRetry settings status = true ↔
      status.isFailure = true ∧ item.failures < settings.perTest := by
  simp [mayRetry]

/-- An item is retried if its test's quota allows it and the budget has a retry left. -/
theorem retry?_eq_some_iff :
    item.retry? settings result pool budget = some (next, left) ↔
      item.mayRetry settings result.status = true ∧ budget.take? = some left ∧
        next = item.nextAttempt settings result.device pool := by
  unfold retry?
  split
  · rename_i allowed
    rw [Option.map_eq_some_iff]
    simp [allowed, eq_comm]
  · rename_i refused
    simp [refused]

end WorkItem

namespace Collector

section TakeLast

variable {α : Type} {p : α → Bool} {xs rest : List α} {a : α}

theorem takeLast?_eq_none_iff : takeLast? p xs = none ↔ ∀ x ∈ xs, p x = false := by
  induction xs with
  | nil => simp [takeLast?]
  | cons x xs ih =>
    unfold takeLast?
    cases h : takeLast? p xs with
    | some found =>
      have later : ¬ ∀ y ∈ xs, p y = false := by simp [← ih, h]
      simp only [reduceCtorEq, List.forall_mem_cons, false_iff]
      exact fun all => later all.2
    | none =>
      have rest : ∀ y ∈ xs, p y = false := ih.1 h
      simpa using fun _ => rest

/-- The element that is taken is the last that satisfies the test; the rest keeps its order. -/
theorem takeLast?_eq_some (h : takeLast? p xs = some (a, rest)) :
    ∃ ahead behind, xs = ahead ++ a :: behind ∧ rest = ahead ++ behind ∧ p a = true ∧
      ∀ x ∈ behind, p x = false := by
  induction xs generalizing rest with
  | nil => simp [takeLast?] at h
  | cons x xs ih =>
    unfold takeLast? at h
    cases later : takeLast? p xs with
    | some found =>
      obtain ⟨b, r⟩ := found
      simp only [later, Option.some.injEq, Prod.mk.injEq] at h
      obtain ⟨rfl, rfl⟩ := h
      obtain ⟨ahead, behind, rfl, rfl, fits, none_behind⟩ := ih later
      exact ⟨x :: ahead, behind, rfl, rfl, fits, none_behind⟩
    | none =>
      simp only [later, Option.ite_none_right_eq_some, Option.some.injEq, Prod.mk.injEq] at h
      obtain ⟨fits, rfl, rfl⟩ := h
      exact ⟨[], xs, rfl, rfl, fits, takeLast?_eq_none_iff.1 later⟩

end TakeLast

variable {c c' : Collector} {key : TestKey} {r : TestResult}

/-- The superseded attempts at a test, in the order in which they were kept. -/
def retriedOf (c : Collector) (key : TestKey) : List TestResult :=
  c.retried.filter fun r => r.test.key == key

theorem reclaim?_eq_none_iff : c.reclaim? key = none ↔ c.retriedOf key = [] := by
  rw [reclaim?, Option.map_eq_none_iff, takeLast?_eq_none_iff, retriedOf, List.filter_eq_nil_iff]
  simp

/-- Taking an attempt back takes the one kept last from those of its test, and touches nothing
else. -/
theorem reclaim?_eq_some (h : c.reclaim? key = some (r, c')) :
    c.retriedOf key = c'.retriedOf key ++ [r] ∧ r.test.key = key ∧ c'.results = c.results ∧
      ∀ other, other ≠ key → c'.retriedOf other = c.retriedOf other := by
  rw [reclaim?, Option.map_eq_some_iff] at h
  obtain ⟨⟨a, rest⟩, taken, pair⟩ := h
  obtain ⟨rfl, rfl⟩ := Prod.mk.inj pair
  obtain ⟨ahead, behind, retried, rfl, fits, none_behind⟩ := takeLast?_eq_some taken
  have own : a.test.key = key := by simpa using fits
  have nothing : behind.filter (fun r => r.test.key == key) = [] := by
    rw [List.filter_eq_nil_iff]
    exact fun x hx => by simpa using none_behind x hx
  refine ⟨?_, own, rfl, ?_⟩
  · simp [retriedOf, retried, nothing, own]
  · intro other apart
    have skipped : ¬ key = other := fun e => apart e.symm
    simp [retriedOf, retried, own, skipped]

/-- What was kept as superseded is what is taken back and what is left. -/
theorem perm_of_reclaim? (h : c.reclaim? key = some (r, c')) : c.retried.Perm (r :: c'.retried) := by
  rw [reclaim?, Option.map_eq_some_iff] at h
  obtain ⟨⟨a, rest⟩, taken, pair⟩ := h
  obtain ⟨rfl, rfl⟩ := Prod.mk.inj pair
  obtain ⟨ahead, behind, retried, rfl, -, -⟩ := takeLast?_eq_some taken
  rw [retried]
  exact List.perm_middle

/-- What is taken back was kept as superseded, and so was all that is left. -/
theorem subset_of_reclaim? (h : c.reclaim? key = some (r, c')) :
    r ∈ c.retried ∧ c'.retried ⊆ c.retried := by
  have split := perm_of_reclaim? h
  exact ⟨split.mem_iff.2 List.mem_cons_self, fun x hx => split.mem_iff.2 (List.mem_cons_of_mem _ hx)⟩

end Collector

end TestFleet
