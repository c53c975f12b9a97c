import Mathlib.Data.List.Pairwise
import TestFleet.Proofs.Pooling.Range
/-!
# What a partition is, and when there is none

A partition puts each device into one pool, the pool where its strategy has its home, and leaves no pool
empty (`Pooling.IsPartition`). There is one just if there are devices, no two with one serial, and a manual
table, if that is the strategy, lists each of them and no serial twice (`Pooling.Covers`). Each way to fall
short has its own error, and where several apply the first of them is told (`Pooling.Refused`).
-/
namespace TestFleet

/-- A list has one key for each element, or a first element whose key an earlier one has. -/
theorem nodup_or_exists_repeat {α κ : Type} (key : α → κ) (xs : List α) :
    (xs.map key).Nodup ∨ ∃ ahead x behind, xs = ahead ++ x :: behind ∧
      (ahead.map key).Nodup ∧ key x ∈ ahead.map key := by
  induction xs using List.reverseRecOn with
  | nil => exact .inl .nil
  | append_singleton xs x ih =>
    rcases ih with apart | ⟨ahead, y, behind, rfl, apart, again⟩
    · by_cases again : key x ∈ xs.map key
      · exact .inr ⟨xs, x, [], rfl, apart, again⟩
      · refine .inl ?_
        rw [List.map_append, List.map_singleton, ← List.concat_eq_append]
        exact apart.concat again
    · exact .inr ⟨ahead, y, behind ++ [x], by simp, apart, again⟩

namespace Pooling

/-! ## Tables -/

variable {table : List (String × List String)} {serial name : String}

/-- The serials that a table lists, in its order. -/
def listed (table : List (String × List String)) : List String := table.flatMap (·.2)

theorem map_fst_listings (table : List (String × List String)) :
    (listings table).map (·.1) = listed table := by
  simp [listings, listed, List.map_flatMap, Function.comp_def]

theorem lookup_listings_isNone :
    ((listings table).lookup serial).isNone = true ↔ serial ∉ listed table := by
  rw [Option.isNone_iff_eq_none, List.lookup_eq_none_iff, ← map_fst_listings]
  simp only [bne_iff_ne, List.mem_map, not_exists, not_and]
  exact ⟨fun none p hp same => none p hp same.symm, fun none p hp same => none p hp same.symm⟩

/-- Among keys that differ, what is listed under a key is found. -/
theorem lookup_of_nodup {entries : List (String × String)} (apart : (entries.map (·.1)).Nodup)
    (listed : (serial, name) ∈ entries) : entries.lookup serial = some name := by
  obtain ⟨ahead, behind, rfl⟩ := List.append_of_mem listed
  rw [List.map_append, List.map_cons] at apart
  refine List.lookup_eq_some_iff.2 ⟨ahead, behind, rfl, fun p hp => bne_iff_ne.2 fun same => ?_⟩
  exact (List.nodup_append.1 apart).2.2 p.1 (List.mem_map_of_mem hp) serial List.mem_cons_self same.symm

/-- Serials that differ, and from those seen before, are passed over. -/
theorem firstDoubleListing_append {seen ahead : List (String × String)}
    (apart : ((ahead.reverse ++ seen).map (·.1)).Nodup) (rest : List (String × String)) :
    firstDoubleListing seen (ahead ++ rest) = firstDoubleListing (ahead.reverse ++ seen) rest := by
  induction ahead generalizing seen with
  | nil => rfl
  | cons p ahead ih =>
    obtain ⟨serial, pool⟩ := p
    have regroup : ((serial, pool) :: ahead).reverse ++ seen = ahead.reverse ++ (serial, pool) :: seen := by
      simp
    rw [regroup] at apart ⊢
    have new : seen.lookup serial = none := by
      rw [List.map_append, List.map_cons] at apart
      have once := (List.nodup_cons.1 (List.nodup_append.1 apart).2.1).1
      refine List.lookup_eq_none_iff.2 fun q hq => bne_iff_ne.2 ?_
      rintro rfl
      exact once (List.mem_map.2 ⟨q, hq, rfl⟩)
    rw [List.cons_append, firstDoubleListing, new]
    exact ih apart

theorem firstDoubleListing_of_nodup (once : (listed table).Nodup) :
    firstDoubleListing [] (listings table) = none := by
  have apart : (((listings table).reverse ++ []).map Prod.fst).Nodup := by
    rw [List.append_nil, List.map_reverse, List.nodup_reverse, map_fst_listings]
    exact once
  simpa [firstDoubleListing] using firstDoubleListing_append apart []

theorem firstDoubleListing_of_repeat {ahead behind : List (String × String)} {first second : String}
    (split : listings table = ahead ++ (serial, second) :: behind) (fresh : (ahead.map (·.1)).Nodup)
    (again : (serial, first) ∈ ahead) :
    firstDoubleListing [] (listings table) = some (serial, first, second) := by
  have apart : ((ahead.reverse ++ []).map Prod.fst).Nodup := by
    rwa [List.append_nil, List.map_reverse, List.nodup_reverse]
  have found : (ahead.reverse ++ []).lookup serial = some first :=
    lookup_of_nodup apart (by simpa using again)
  rw [split, firstDoubleListing_append apart, firstDoubleListing, found]

/-! ## Partitions -/

variable {strategy : Pooling} {devices : List Device} {pools : List DevicePool} {pool : DevicePool}
  {d : Device}

/-- The pool of a name is where a device belongs. Which range of values it belongs to is not told by the
device alone. -/
def Home (strategy : Pooling) (d : Device) (name : String) : Prop :=
  match strategy with
  | .omni => name = "omni"
  | .manual table => ∃ entry ∈ table, entry.1 = name ∧ d.id.serial ∈ entry.2
  | .tablet => name = if d.display = .tablet then "tablets" else "phones"
  | .capability _ _ => True
  | .perDevice => name = d.id.serial

/-- A manual table lists every device, and no serial twice. -/
def Covers (strategy : Pooling) (devices : List Device) : Prop :=
  ∀ table, strategy = .manual table →
    (listed table).Nodup ∧ ∀ d ∈ devices, d.id.serial ∈ listed table

/-- The pools make up the devices. -/
structure IsPartition (strategy : Pooling) (devices : List Device) (pools : List DevicePool) :
    Prop where
  once : ∀ d ∈ devices, ∃! pool, pool ∈ pools ∧ d ∈ pool.devices
  home : ∀ pool ∈ pools, ∀ d ∈ pool.devices, d ∈ devices ∧ Home strategy d pool.id.name
  full : ∀ pool ∈ pools, pool.devices ≠ []
  apart : (pools.map (·.id)).Nodup
  order : ∀ pool ∈ pools, pool.devices.Sublist devices

/-- Why devices are not partitioned. A serial that repeats is told before anything else, and a serial that
a table lists again before a device it does not list. What is told is the first of its kind. -/
inductive Refused (strategy : Pooling) (devices : List Device) : ConfigError → Prop
  | repeated {ahead behind : List Device} {d : Device} (split : devices = ahead ++ d :: behind)
      (fresh : (ahead.map (·.id)).Nodup) (again : d.id ∈ ahead.map (·.id)) :
      Refused strategy devices (.duplicateDevice d.id.serial)
  | empty (empty : devices = []) :
      Refused strategy devices (.noPools "the device provider returned no devices")
  | doubled {table : List (String × List String)} {ahead behind : List (String × String)}
      {serial first second : String} (apart : (devices.map (·.id)).Nodup) (full : devices ≠ [])
      (manual : strategy = .manual table)
      (split : listings table = ahead ++ (serial, second) :: behind)
      (fresh : (ahead.map (·.1)).Nodup) (again : (serial, first) ∈ ahead) :
      Refused strategy devices
        (.invalid ("device " ++ serial ++ " is listed in pools " ++ first ++ " and " ++ second))
  | unlisted {table : List (String × List String)} {ahead behind : List Device} {d : Device}
      (apart : (devices.map (·.id)).Nodup) (manual : strategy = .manual table)
      (once : (listed table).Nodup) (split : devices = ahead ++ d :: behind)
      (known : ∀ e ∈ ahead, e.id.serial ∈ listed table) (missing : d.id.serial ∉ listed table) :
      Refused strategy devices (.noPoolMatched d.id.serial)

/-! ### Pools of a partition -/

/-- Devices are in the pool where they belong, also where it is left out later. -/
theorem home_of_pools (h : Pooling.pools strategy devices = .ok pools) (hp : pool ∈ pools)
    (hd : d ∈ pool.devices) : Home strategy d pool.id.name := by
  cases strategy with
  | omni =>
    cases h
    obtain rfl := List.mem_singleton.1 hp
    rfl
  | manual table =>
    obtain ⟨-, rfl⟩ := exists_of_byTable h
    obtain ⟨name, -, rfl⟩ := List.mem_map.1 hp
    have found : (listings table).lookup d.id.serial = some name := by
      simpa using (List.mem_filter.1 hd).2
    obtain ⟨ahead, behind, split, -⟩ := List.lookup_eq_some_iff.1 found
    exact mem_listings.1 (split ▸ List.mem_append_right _ List.mem_cons_self)
  | tablet =>
    cases h
    simp only [List.mem_cons, List.not_mem_nil, or_false] at hp
    rcases hp with rfl | rfl
    · have own : d.display = .tablet := by simpa [Device.isTablet] using (List.mem_filter.1 hd).2
      simp [Home, own]
    · have other : ¬ d.display = .tablet := by
        simpa [Device.isTablet] using (List.mem_filter.1 hd).2
      simp [Home, other]
  | capability c buckets => trivial
  | perDevice =>
    cases h
    obtain ⟨e, -, rfl⟩ := List.mem_map.1 hp
    obtain rfl := List.mem_singleton.1 hd
    rfl

/-- No two pools have the same name, those included that are left out later. -/
theorem nodup_ids_of_pools (apart : (devices.map (·.id)).Nodup)
    (h : Pooling.pools strategy devices = .ok pools) : (pools.map (·.id)).Nodup := by
  cases strategy with
  | omni =>
    cases h
    simp
  | manual table =>
    obtain ⟨-, rfl⟩ := exists_of_byTable h
    rw [List.map_map]
    exact (Ascending.nodup_ofText _).map fun a b same => congrArg PoolId.name same
  | tablet =>
    cases h
    simp
  | capability c buckets =>
    cases h
    exact nodup_ids_of_byCharacteristic
  | perDevice =>
    cases h
    have names : ((devices.map (·.id)).map fun id => (⟨id.serial⟩ : PoolId)).Nodup :=
      apart.map fun a b same => congrArg (DeviceId.mk ∘ PoolId.name) same
    simpa [Function.comp_def] using names

theorem isPartition_of_ok (h : partition strategy devices = .ok pools) :
    IsPartition strategy devices pools := by
  obtain ⟨apart, all, grouped, kept⟩ := exists_of_partition h
  have source {pool} (hp : pool ∈ pools) : pool ∈ all := (List.mem_filter.1 (kept ▸ hp)).1
  have parts := perm_of_partition h
  refine {
    once := ?once
    home := fun pool hp d hd =>
      ⟨(sublist_of_pools grouped (source hp)).subset hd, home_of_pools grouped (source hp) hd⟩
    full := fun pool => ne_nil_of_partition h
    apart := ?apart
    order := fun pool hp => sublist_of_pools grouped (source hp) }
  case once =>
    intro d hd
    obtain ⟨pool, hp, inside⟩ := List.mem_flatMap.1 (parts.mem_iff.2 hd)
    refine ⟨pool, ⟨hp, inside⟩, fun other ⟨ho, inside'⟩ => ?_⟩
    by_contra differ
    have symmetric : Std.Symm (Function.onFun List.Disjoint DevicePool.devices) :=
      ⟨fun _ _ disjoint => disjoint.symm⟩
    have disjoint := (List.nodup_flatMap.1 (parts.nodup_iff.2 (apart.of_map _))).2
    exact disjoint.forall ho hp differ inside' inside
  case apart =>
    subst kept
    exact (nodup_ids_of_pools apart grouped).sublist (List.filter_sublist.map _)

/-! ### Outcomes -/

theorem byTable_of_covers (once : (listed table).Nodup)
    (known : ∀ d ∈ devices, d.id.serial ∈ listed table) :
    ∃ pools, byTable table devices = .ok pools := by
  have all : (devices.find? fun d => ((listings table).lookup d.id.serial).isNone) = none :=
    List.find?_eq_none.2 fun d hd missing => lookup_listings_isNone.1 missing (known d hd)
  simp only [byTable, firstDoubleListing_of_nodup once, all]
  exact ⟨_, rfl⟩

theorem exists_partition (full : devices ≠ []) (apart : (devices.map (·.id)).Nodup)
    (covers : Covers strategy devices) : ∃ pools, partition strategy devices = .ok pools := by
  rw [partition_of_nodup apart full]
  obtain ⟨all, grouped⟩ : ∃ all, Pooling.pools strategy devices = .ok all := by
    cases strategy with
    | manual table => exact byTable_of_covers (covers table rfl).1 (covers table rfl).2
    | omni | tablet | capability | perDevice => exact ⟨_, rfl⟩
  rw [grouped]
  exact ⟨_, rfl⟩

theorem partition_of_refused {e : ConfigError} (refused : Refused strategy devices e) :
    partition strategy devices = .error e := by
  cases refused with
  | repeated split fresh again =>
    rename_i ahead behind d
    have found : firstRepeat [] (devices.map (·.id)) = some d.id := by
      rw [split, List.map_append, List.map_cons,
        firstRepeat_append fresh fun _ _ => List.not_mem_nil, firstRepeat, if_pos (by simpa using again)]
    unfold partition
    rw [found]
    rfl
  | empty empty =>
    subst empty
    rfl
  | doubled apart full manual split fresh again =>
    subst manual
    rw [partition_of_nodup apart full]
    simp only [Pooling.pools, byTable, firstDoubleListing_of_repeat split fresh again, Except.map]
  | unlisted apart manual once split known missing =>
    rename_i table ahead behind d
    subst manual
    have found : (devices.find? fun d => ((listings table).lookup d.id.serial).isNone) = some d := by
      refine List.find?_eq_some_iff_append.2
        ⟨lookup_listings_isNone.2 missing, ahead, behind, split, fun e he => ?_⟩
      rw [Bool.not_eq_true', Bool.eq_false_iff]
      exact fun missing => lookup_listings_isNone.1 missing (known e he)
    rw [partition_of_nodup apart (by simp [split])]
    simp only [Pooling.pools, byTable, firstDoubleListing_of_nodup once, found, Except.map]

/-- What is not refused has all that a partition takes. -/
theorem refused_or_covers (strategy : Pooling) (devices : List Device) :
    (∃ e, Refused strategy devices e) ∨
      devices ≠ [] ∧ (devices.map (·.id)).Nodup ∧ Covers strategy devices := by
  rcases nodup_or_exists_repeat Device.id devices with apart | ⟨ahead, d, behind, split, fresh, again⟩
  case inr => exact .inl ⟨_, .repeated split fresh again⟩
  by_cases full : devices = []
  · exact .inl ⟨_, .empty full⟩
  by_cases other : ∀ table, strategy ≠ .manual table
  · exact .inr ⟨full, apart, fun table manual => absurd manual (other table)⟩
  obtain ⟨table, manual⟩ := not_forall_not.1 other
  rcases nodup_or_exists_repeat Prod.fst (listings table) with
    once | ⟨ahead, p, behind, split, fresh, again⟩
  case inr =>
    obtain ⟨⟨serial, first⟩, early, rfl⟩ := List.mem_map.1 again
    exact .inl ⟨_, .doubled apart full manual split fresh early⟩
  rw [map_fst_listings] at once
  by_cases known : ∀ d ∈ devices, d.id.serial ∈ listed table
  · refine .inr ⟨full, apart, fun other same => ?_⟩
    cases manual.symm.trans same
    exact ⟨once, known⟩
  · -- Of the devices that the table does not list the first is told.
    obtain ⟨d, hd, missing⟩ : ∃ d ∈ devices, d.id.serial ∉ listed table := by simpa using known
    have some : (devices.find? fun d => decide (d.id.serial ∉ listed table)).isSome :=
      List.find?_isSome.2 ⟨d, hd, decide_eq_true missing⟩
    obtain ⟨e, found⟩ := Option.isSome_iff_exists.1 some
    obtain ⟨absent, ahead, behind, split, early⟩ := List.find?_eq_some_iff_append.1 found
    exact .inl ⟨_, .unlisted apart manual once split (by simpa using early) (of_decide_eq_true absent)⟩

/-- **Devices are partitioned or refused.** They are partitioned just if there are some, no two of one
serial, and a manual table lists each of them and no serial twice, and the pools then make them up. The
error is else the first that applies. -/
theorem partition_outcome (strategy : Pooling) (devices : List Device) :
    ((∃ pools, partition strategy devices = .ok pools) ↔
      devices ≠ [] ∧ (devices.map (·.id)).Nodup ∧ Covers strategy devices) ∧
    (∀ pools, partition strategy devices = .ok pools → IsPartition strategy devices pools) ∧
    ∀ e, partition strategy devices = .error e ↔ Refused strategy devices e := by
  -- Devices that are refused fail, and others do not, so the outcome tells which of them they are.
  refine ⟨⟨?_, fun ⟨full, apart, covers⟩ => exists_partition full apart covers⟩,
    fun _ => isPartition_of_ok, fun e => ⟨fun failed => ?_, partition_of_refused⟩⟩
  · rintro ⟨pools, grouped⟩
    refine (refused_or_covers strategy devices).resolve_left fun ⟨e, refused⟩ => ?_
    cases grouped.symm.trans (partition_of_refused refused)
  · rcases refused_or_covers strategy devices with ⟨e', refused⟩ | ⟨full, apart, covers⟩
    · cases failed.symm.trans (partition_of_refused refused)
      exact refused
    · obtain ⟨pools, grouped⟩ := exists_partition full apart covers
      cases failed.symm.trans grouped

/-- A serial that is listed twice is told, though no device has it, and not the device that no pool has. -/
example : partition (.manual [("north", ["a", "b"]), ("south", ["a"])]) [.bare "c"] =
    .error (.invalid "device a is listed in pools north and south") := by
  rfl

end Pooling

end TestFleet
