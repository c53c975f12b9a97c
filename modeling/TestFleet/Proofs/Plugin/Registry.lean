import TestFleet.Plugin.Registry
import TestFleet.Proofs.Outcome
/-!
# What a registry builds

What is built for an entry comes from the factory that the table has for the entry's identifier, and
so does a panic. If no factory of a table looks at the context to tell whether it can build anything
from an entry, then what can be built for one context can be built for every other
(`Registry.isDone_buildAll`).
-/
namespace TestFleet

namespace Registry

open Plugin (Point)

variable {C α : Type} {point : Point} {ctx : C} {e : PluginEntry} {es : List PluginEntry}

theorem build_eq_done_iff {table : FactoryTable C α} {a : α} :
    build point table ctx e = .done a ↔
      Plugin.isIdentifier e.kind = true ∧
        ∃ make, table.lookup e.kind = some make ∧ make ctx e = .done a := by
  unfold build
  cases valid : Plugin.isIdentifier e.kind with
  | false => simp
  | true =>
    cases found : table.lookup e.kind with
    | none => simp
    | some make => simp [Outcome.mapError_eq_done_iff]

/-- A panic comes from the factory of the entry. -/
theorem exists_of_build_panicked {table : FactoryTable C α} {m : String}
    (h : build point table ctx e = .panicked m) :
    ∃ make, table.lookup e.kind = some make ∧ make ctx e = .panicked m := by
  unfold build at h
  split at h
  · cases h
  · split at h
    · cases h
    · rename_i make found
      refine ⟨make, found, ?_⟩
      cases made : make ctx e <;> simp_all [Outcome.mapError]

theorem mem_of_lookup {table : FactoryTable C α} {id : String} {make : Factory C α}
    (found : table.lookup id = some make) : (id, make) ∈ table := by
  obtain ⟨ahead, behind, rfl, -⟩ := List.lookup_eq_some_iff.1 found
  simp

theorem buildAll_append_eq_done_iff {table : FactoryTable C (List α)} {es' : List PluginEntry}
    {xs : List α} :
    buildAll point table ctx (es ++ es') = .done xs ↔
      ∃ early late, buildAll point table ctx es = .done early ∧
        buildAll point table ctx es' = .done late ∧ xs = early ++ late := by
  unfold buildAll
  rw [Outcome.collect_append]
  cases Outcome.collect (build point table ctx) es <;>
    cases Outcome.collect (build point table ctx) es' <;>
      simp [Outcome.map, Outcome.andThen, eq_comm]

theorem buildAll_singleton {table : FactoryTable C (List α)} :
    buildAll point table ctx [e] = build point table ctx e := by
  unfold buildAll
  cases h : build point table ctx e <;> simp [Outcome.collect, Outcome.andThen, Outcome.map, h]

/-- What is built for several entries comes from factories of the table. -/
theorem exists_of_mem_buildAll {table : FactoryTable C (List α)} {xs : List α} {x : α}
    (h : buildAll point table ctx es = .done xs) (hx : x ∈ xs) :
    ∃ factory ∈ table, ∃ e built, factory.2 ctx e = .done built ∧ x ∈ built := by
  obtain ⟨parts, collected, rfl⟩ := Outcome.map_eq_done_iff.1 h
  obtain ⟨part, hpart, hx⟩ := List.mem_flatten.1 hx
  obtain ⟨e, -, built⟩ := Outcome.exists_of_mem_collect collected hpart
  obtain ⟨-, make, found, made⟩ := build_eq_done_iff.1 built
  exact ⟨_, mem_of_lookup found, e, part, made, hx⟩

/-- A panic while several components are built comes from a factory of the table. -/
theorem exists_of_buildAll_panicked {table : FactoryTable C (List α)} {m : String}
    (h : buildAll point table ctx es = .panicked m) :
    ∃ factory ∈ table, ∃ e, factory.2 ctx e = .panicked m := by
  obtain ⟨e, -, panicked⟩ := Outcome.exists_of_collect_panicked (Outcome.map_eq_panicked_iff.1 h)
  obtain ⟨make, found, panicked⟩ := exists_of_build_panicked panicked
  exact ⟨_, mem_of_lookup found, e, panicked⟩

/-- Whether a factory can build anything from an entry does not depend on the context. -/
def JudgesAlike (table : FactoryTable C α) : Prop :=
  ∀ factory ∈ table, ∀ e ctx ctx', (factory.2 ctx e).IsDone → (factory.2 ctx' e).IsDone

theorem isDone_build {table : FactoryTable C α} (alike : JudgesAlike table) {ctx' : C}
    (built : (build point table ctx e).IsDone) : (build point table ctx' e).IsDone := by
  obtain ⟨a, built⟩ := built
  obtain ⟨valid, make, found, made⟩ := build_eq_done_iff.1 built
  obtain ⟨a', made'⟩ := alike _ (mem_of_lookup found) e ctx ctx' ⟨a, made⟩
  exact ⟨a', build_eq_done_iff.2 ⟨valid, make, found, made'⟩⟩

/-- What can be built for one context can be built for another. -/
theorem isDone_buildAll {table : FactoryTable C (List α)} (alike : JudgesAlike table) {ctx' : C}
    (built : (buildAll point table ctx es).IsDone) : (buildAll point table ctx' es).IsDone := by
  unfold buildAll at built ⊢
  rw [Outcome.isDone_map_iff, Outcome.isDone_collect_iff] at built ⊢
  exact fun e he => isDone_build alike (built e he)

end Registry

end TestFleet
