import TestFleet.Plugin.Builtin
import TestFleet.Proofs.Plugin.Registry
/-!
# What built-in components are like

A built-in backend goes by the label of its entry, and the built-in rules on suites drop items or
change their order but make none up. Rules of pools, of devices and of attempts are built from their
entries alone.
-/
namespace TestFleet

/-! ## Readers -/

namespace Datum

variable {α β : Type} {P : β → Prop}

/-- Whatever the reader gives has a property. -/
def FieldReader.Gives (P : β → Prop) (read : FieldReader β) : Prop :=
  ∀ fields b rest, read fields = some (b, rest) → P b

theorem FieldReader.gives_pure {b : β} (h : P b) : FieldReader.Gives P (pure b) := by
  intro fields b' rest given
  cases given
  exact h

theorem FieldReader.gives_bind {x : FieldReader α} {f : α → FieldReader β}
    (h : ∀ a, FieldReader.Gives P (f a)) : FieldReader.Gives P (x >>= f) := by
  intro fields b rest given
  obtain ⟨⟨a, left⟩, -, given⟩ := Option.bind_eq_some_iff.1 given
  exact h a left b rest given

/-- What an entry is read as was given by the reader. -/
theorem FieldReader.Gives.of_parse {e : PluginEntry} {read : FieldReader β} {b : β}
    (gives : FieldReader.Gives P read) (h : e.parse read = .ok b) : P b := by
  unfold PluginEntry.parse at h
  split at h
  · rename_i b' found
    cases h
    obtain ⟨⟨b', rest⟩, given, finished⟩ := Option.bind_eq_some_iff.1 found
    obtain ⟨-, same⟩ := Option.ite_none_right_eq_some.1 finished
    cases same
    exact gives _ _ _ given
  · cases h

end Datum

open Datum (FieldReader)
open Datum.FieldReader (gives_pure gives_bind)

/-! ## Backends -/

theorem DryRun.id_of_ofEntry {e : PluginEntry} {d : DryRun} (h : ofEntry e = .ok d) :
    d.id = e.label := by
  refine FieldReader.Gives.of_parse (P := fun d : DryRun => d.id = e.label) ?_ h
  exact gives_bind fun _ => gives_bind fun _ => gives_bind fun _ => gives_bind fun _ =>
    gives_pure rfl

theorem CommandBackend.id_of_ofEntry {e : PluginEntry} {b : CommandBackend}
    (h : ofEntry e = .ok b) : b.id = e.label := by
  obtain ⟨read, parsed, kept⟩ := bind_eq_ok_iff.1 h
  have own : read.id = e.label := by
    refine FieldReader.Gives.of_parse (P := fun b : CommandBackend => b.id = e.label) ?_ parsed
    iterate 8 refine gives_bind fun _ => ?_
    exact gives_pure rfl
  split at kept
  · cases kept
  · cases kept
    exact own

namespace Registry

variable {W : Type} [Hosted W] {registry : Registry W} {seed : UInt64}

/-- A built-in backend goes by the label of its entry. -/
theorem id_of_builtin_backend (builtin : registry.backends = (Registry.builtin seed).backends)
    {e : PluginEntry} {b : Backend W} (built : registry.backend e = .done b) : b.id = e.label := by
  obtain ⟨-, make, found, made⟩ := build_eq_done_iff.1 built
  have known := mem_of_lookup (builtin ▸ found)
  simp only [Registry.builtin, List.mem_cons, Prod.mk.injEq, List.not_mem_nil, or_false] at known
  rcases known with ⟨-, rfl⟩ | ⟨-, rfl⟩
  · obtain ⟨command, read, rfl⟩ := map_eq_ok_iff.1 (Outcome.ofExcept_eq_done_iff.1 made)
    exact CommandBackend.id_of_ofEntry read
  · obtain ⟨dry, read, rfl⟩ := map_eq_ok_iff.1 (Outcome.ofExcept_eq_done_iff.1 made)
    exact DryRun.id_of_ofEntry read

/-! ## Rules on suites -/

/-- A built-in rule on suites makes no item up. -/
theorem subset_of_builtin_suiteRule
    (builtin : registry.suiteRules = (Registry.builtin (W := W) seed).suiteRules) {ctx : PoolContext}
    {rules : List SuiteRule} (built : registry.rulesOfSuite ctx = .done rules) :
    ∀ rule ∈ rules, ∀ items, rule.apply ctx items ⊆ items := by
  intro rule hr items
  obtain ⟨factory, known, e, part, made, hr⟩ := exists_of_mem_buildAll built hr
  rw [builtin] at known
  simp only [Registry.builtin, List.mem_cons, List.not_mem_nil, or_false] at known
  rcases known with rfl | rfl
  · obtain ⟨filter, -, rfl⟩ := map_eq_ok_iff.1 (Outcome.ofExcept_eq_done_iff.1 made)
    obtain rfl := List.mem_singleton.1 hr
    exact List.filter_sublist.subset
  · obtain ⟨shuffle, read, rfl⟩ := map_eq_ok_iff.1 (Outcome.ofExcept_eq_done_iff.1 made)
    obtain rfl := List.mem_singleton.1 hr
    obtain ⟨own, -, pure⟩ := bind_eq_ok_iff.1 read
    cases pure
    exact (Random.shuffleWith_perm _ items).subset

/-! ## Rules of pools, of devices and of attempts -/

theorem judgesAlike_builtin_poolRules (seed : UInt64) :
    JudgesAlike (Registry.builtin (W := W) seed).poolRules := by
  intro factory known e ctx ctx' built
  obtain rfl := List.mem_singleton.1 known
  exact built

theorem judgesAlike_builtin_deviceRules (seed : UInt64) :
    JudgesAlike (Registry.builtin (W := W) seed).deviceRules := by
  intro factory known e ctx ctx' built
  obtain rfl := List.mem_singleton.1 known
  exact built

theorem judgesAlike_builtin_attemptRules (seed : UInt64) :
    JudgesAlike (Registry.builtin (W := W) seed).attemptRules := by
  intro factory known e ctx ctx' built
  simp only [Registry.builtin, List.mem_cons, List.not_mem_nil, or_false] at known
  rcases known with rfl | rfl | rfl
  · exact built
  · exact built
  · exact built

end Registry

end TestFleet
