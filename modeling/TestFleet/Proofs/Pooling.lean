import Mathlib.Data.List.Flatten
import Mathlib.Data.List.Nodup
import Mathlib.Data.List.Perm.Basic
import TestFleet.Pooling
import TestFleet.Proofs.Outcome
/-!
# Pools of a partition

Devices are grouped but not made up, and each keeps its place: the devices of a pool are some of those
listed, in their order, whatever the strategy (`Pooling.sublist_of_pools`). Each is in one pool
(`Pooling.perm_of_partition`), so that serials that differ among the devices listed differ in all the
pools together (`Pooling.nodup_serials_of_partition`).
-/
namespace TestFleet

/-! ## Lists filtered out of one list -/

theorem flatMap_filter_singleton {ι α : Type} (is : List ι) (p : ι → α → Bool) (x : α) :
    (is.flatMap fun i => [x].filter (p i)) = List.replicate (is.countP (p · x)) x := by
  induction is with
  | nil => rfl
  | cons i is ih =>
    rw [List.flatMap_cons, List.countP_cons, ih]
    cases own : p i x <;> simp [own, List.replicate_succ]

/-- Lists filtered out of one list make it up if each of its elements is in just one of them. -/
theorem perm_flatMap_filter {ι α : Type} {is : List ι} {p : ι → α → Bool} {xs : List α}
    (once : ∀ x ∈ xs, is.countP (p · x) = 1) : (is.flatMap fun i => xs.filter (p i)).Perm xs := by
  induction xs with
  | nil => simp
  | cons x rest ih =>
    obtain ⟨own, others⟩ := List.forall_mem_cons.1 once
    have split : (is.flatMap fun i => (x :: rest).filter (p i)) =
        is.flatMap fun i => [x].filter (p i) ++ rest.filter (p i) := by
      refine List.flatMap_congr fun i _ => ?_
      rw [← List.filter_append, List.singleton_append]
    rw [split]
    refine (List.flatMap_append_perm _ _ _).symm.trans ?_
    rw [flatMap_filter_singleton, own]
    exact (ih others).cons x

/-- Where nothing equals an earlier element, or one seen before, there is no repetition. -/
theorem nodup_of_firstRepeat {α : Type} [DecidableEq α] {seen xs : List α}
    (none : firstRepeat seen xs = none) : xs.Nodup ∧ ∀ x ∈ xs, x ∉ seen := by
  induction xs generalizing seen with
  | nil => exact ⟨.nil, nofun⟩
  | cons x rest ih =>
    unfold firstRepeat at none
    split at none
    · cases none
    · rename_i fresh
      obtain ⟨apart, unseen⟩ := ih none
      refine ⟨List.nodup_cons.2 ⟨fun hx => unseen x hx List.mem_cons_self, apart⟩, ?_⟩
      intro y hy
      rcases List.mem_cons.1 hy with rfl | later
      · exact fresh
      · exact fun known => unseen y later (List.mem_cons_of_mem _ known)

/-- Elements that differ, and from those seen before, are passed over. -/
theorem firstRepeat_append {α : Type} [DecidableEq α] {seen ahead : List α} (apart : ahead.Nodup)
    (fresh : ∀ x ∈ ahead, x ∉ seen) (rest : List α) :
    firstRepeat seen (ahead ++ rest) = firstRepeat (ahead.reverse ++ seen) rest := by
  induction ahead generalizing seen with
  | nil => rfl
  | cons x ahead ih =>
    obtain ⟨once, others⟩ := List.nodup_cons.1 apart
    obtain ⟨new, unseen⟩ := List.forall_mem_cons.1 fresh
    have still : ∀ y ∈ ahead, y ∉ x :: seen := fun y hy known =>
      (List.mem_cons.1 known).elim (fun same => once (same ▸ hy)) (unseen y hy)
    rw [List.cons_append, firstRepeat, if_neg new, ih others still]
    simp

/-- Where no element equals another there is no repetition. -/
theorem firstRepeat_of_nodup {α : Type} [DecidableEq α] {xs : List α} (apart : xs.Nodup) :
    firstRepeat [] xs = none := by
  simpa [firstRepeat] using firstRepeat_append apart (fun x _ => List.not_mem_nil) []

/-! ## Ranges of values -/

theorem flatten_chunks {α : Type} {n fuel : Nat} {xs : List α} (positive : 0 < n)
    (enough : xs.length ≤ fuel) : (chunks n fuel xs).flatten = xs := by
  induction fuel generalizing xs with
  | zero =>
    obtain rfl := List.length_eq_zero_iff.1 (Nat.le_zero.1 enough)
    rfl
  | succ fuel ih =>
    cases xs with
    | nil => rfl
    | cons x rest =>
      have shorter : ((x :: rest).drop n).length ≤ fuel := by
        rw [List.length_drop]
        omega
      rw [chunks, List.flatten_cons, ih shorter, List.take_append_drop]

theorem ne_nil_of_mem_chunks {α : Type} {n fuel : Nat} {xs part : List α} (positive : 0 < n)
    (hp : part ∈ chunks n fuel xs) : part ≠ [] := by
  induction fuel generalizing xs with
  | zero => cases xs <;> simp [chunks] at hp
  | succ fuel ih =>
    cases xs with
    | nil => simp [chunks] at hp
    | cons x rest =>
      rcases List.mem_cons.1 hp with rfl | later
      · simp [Nat.ne_of_gt positive]
      · exact ih later

namespace Pooling

/-- Whether a value is between the first value of a range and its last. -/
def spans (range : List Nat) (v : Nat) : Bool :=
  decide (range.head?.getD 0 ≤ v) && decide (v ≤ range.getLast?.getD 0)

theorem spans_iff {range : List Nat} {v : Nat} :
    spans range v = true ↔ range.head?.getD 0 ≤ v ∧ v ≤ range.getLast?.getD 0 := by
  simp [spans]

theorem head?_getD_mem {range : List Nat} (full : range ≠ []) : range.head?.getD 0 ∈ range := by
  rw [List.head?_eq_some_head full]
  exact List.head_mem full

theorem getLast?_getD_mem {range : List Nat} (full : range ≠ []) :
    range.getLast?.getD 0 ∈ range := by
  rw [List.getLast?_eq_some_getLast full]
  exact List.getLast_mem full

theorem spans_of_mem {range : List Nat} {v : Nat} (ascends : range.Pairwise (· < ·))
    (hv : v ∈ range) : spans range v = true := by
  rw [spans_iff]
  have full : range ≠ [] := List.ne_nil_of_mem hv
  constructor
  · cases range with
    | nil => cases hv
    | cons low rest =>
      rcases List.mem_cons.1 hv with rfl | later
      · exact Nat.le_refl _
      · exact Nat.le_of_lt ((List.pairwise_cons.1 ascends).1 v later)
  · rw [List.getLast?_eq_some_getLast full]
    rw [← List.dropLast_append_getLast full] at ascends hv
    rcases List.mem_append.1 hv with earlier | last
    · exact Nat.le_of_lt ((List.pairwise_append.1 ascends).2.2 v earlier _ List.mem_cons_self)
    · exact Nat.le_of_eq (List.mem_singleton.1 last)

/-- Of ranges that ascend, one after the other, a value is in one. -/
theorem countP_spans {ranges : List (List Nat)} {v : Nat} (full : ∀ range ∈ ranges, range ≠ [])
    (ascends : ranges.flatten.Pairwise (· < ·)) (hv : v ∈ ranges.flatten) :
    ranges.countP (spans · v) = 1 := by
  induction ranges with
  | nil => cases hv
  | cons range rest ih =>
    obtain ⟨own, others⟩ := List.forall_mem_cons.1 full
    rw [List.flatten_cons] at ascends hv
    obtain ⟨within, behind, across⟩ := List.pairwise_append.1 ascends
    rw [List.countP_cons]
    rcases List.mem_append.1 hv with here | later
    · have none : rest.countP (spans · v) = 0 := by
        refine List.countP_eq_zero.2 fun r hr spanned => ?_
        have first := across v here _ (List.mem_flatten_of_mem hr (head?_getD_mem (others r hr)))
        have := (spans_iff.1 spanned).1
        omega
      rw [none, if_pos (spans_of_mem within here)]
    · have last := across _ (getLast?_getD_mem own) v later
      have beyond : ¬ spans range v = true := fun spanned => by
        have := (spans_iff.1 spanned).2
        omega
      rw [if_neg beyond, ih others behind later]

/-! ## Pools -/

variable {strategy : Pooling} {devices : List Device} {pools : List DevicePool} {pool : DevicePool}

theorem mem_listings {table : List (String × List String)} {serial name : String} :
    (serial, name) ∈ listings table ↔ ∃ entry ∈ table, entry.1 = name ∧ serial ∈ entry.2 := by
  simp only [listings, List.mem_flatMap, List.mem_map, Prod.mk.injEq]
  constructor
  · rintro ⟨entry, he, _, hs, rfl, rfl⟩
    exact ⟨entry, he, rfl, hs⟩
  · rintro ⟨entry, he, rfl, hs⟩
    exact ⟨entry, he, serial, hs, rfl, rfl⟩

/-- A table that makes pools has a name for each device, and they are pools of its names. -/
theorem exists_of_byTable {table : List (String × List String)}
    (h : byTable table devices = .ok pools) :
    (∀ d ∈ devices, ∃ name, (listings table).lookup d.id.serial = some name) ∧
    pools = (Ascending.ofList Ascending.textBefore (table.map (·.1))).map fun name =>
      ⟨⟨name⟩, devices.filter fun d => (listings table).lookup d.id.serial == some name⟩ := by
  unfold byTable at h
  dsimp only at h
  split at h
  · cases h
  · split at h
    · cases h
    · rename_i listed
      cases h
      refine ⟨fun d hd => ?_, rfl⟩
      have known := List.find?_eq_none.1 listed d hd
      rwa [Option.isNone_iff_eq_none, ← ne_eq, Option.ne_none_iff_exists'] at known

/-- A pool has some of the devices, in their order. -/
theorem sublist_of_pools (h : Pooling.pools strategy devices = .ok pools) (hp : pool ∈ pools) :
    pool.devices.Sublist devices := by
  cases strategy with
  | omni =>
    cases h
    obtain rfl := List.mem_singleton.1 hp
    exact .refl _
  | manual table =>
    obtain ⟨-, rfl⟩ := exists_of_byTable h
    obtain ⟨name, -, rfl⟩ := List.mem_map.1 hp
    exact List.filter_sublist
  | tablet =>
    cases h
    simp only [List.mem_cons, List.not_mem_nil, or_false] at hp
    rcases hp with rfl | rfl
    · exact List.filter_sublist
    · exact List.filter_sublist
  | capability c buckets =>
    cases h
    obtain ⟨range, -, rfl⟩ := List.mem_map.1 hp
    exact List.filter_sublist
  | perDevice =>
    cases h
    obtain ⟨device, hd, rfl⟩ := List.mem_map.1 hp
    exact List.singleton_sublist.2 hd

theorem perm_of_byTable {table : List (String × List String)}
    (h : byTable table devices = .ok pools) : (pools.flatMap (·.devices)).Perm devices := by
  obtain ⟨known, rfl⟩ := exists_of_byTable h
  rw [List.flatMap_map]
  refine perm_flatMap_filter fun d hd => ?_
  -- The table lists the device under one of its names, and each name makes one pool.
  obtain ⟨name, found⟩ := known d hd
  obtain ⟨ahead, behind, split, -⟩ := List.lookup_eq_some_iff.1 found
  obtain ⟨entry, he, rfl, -⟩ := mem_listings.1 (split ▸ List.mem_append_right _ List.mem_cons_self)
  have named : entry.1 ∈ Ascending.ofList Ascending.textBefore (table.map Prod.fst) :=
    (Ascending.mem_ofList Ascending.eq_of_not_textBefore).2 (List.mem_map_of_mem he)
  rw [← List.count_eq_one_of_mem (Ascending.nodup_ofText _) named, List.count_eq_countP]
  refine List.countP_congr fun other _ => ?_
  rw [found, beq_iff_eq, beq_iff_eq, Option.some_inj, eq_comm]

theorem pairwise_distinctValues (c : Characteristic) (devices : List Device) :
    (distinctValues c devices).Pairwise (· < ·) := by
  have ascends : (distinctValues c devices).Pairwise fun a b => decide (a < b) = true :=
    Ascending.pairwise_ofList (fun a b h h' => by simp at h h'; omega)
      (fun a b c h h' => by simp at h h' ⊢; omega) (devices.map c.value)
  exact ascends.imp fun lower => of_decide_eq_true lower

theorem mem_distinctValues {c : Characteristic} {devices : List Device} {v : Nat} :
    v ∈ distinctValues c devices ↔ v ∈ devices.map c.value :=
  Ascending.mem_ofList fun a b h h' => by simp at h h'; omega

theorem perm_of_byCharacteristic (c : Characteristic) (buckets : Nat) (devices : List Device) :
    ((byCharacteristic c buckets devices).flatMap (·.devices)).Perm devices := by
  unfold byCharacteristic
  dsimp only
  generalize size : valuesPerPool (distinctValues c devices).length buckets = n
  have positive : 0 < n := size ▸ Nat.le_max_right _ 1
  have ranges : (chunks n (distinctValues c devices).length (distinctValues c devices)).flatten =
    distinctValues c devices := flatten_chunks positive (Nat.le_refl _)
  rw [List.flatMap_map]
  refine perm_flatMap_filter (p := fun range d => spans range (c.value d)) fun d hd => ?_
  refine countP_spans (fun range hr => ne_nil_of_mem_chunks positive hr) ?_ ?_
  · rw [ranges]
    exact pairwise_distinctValues c devices
  · rw [ranges, mem_distinctValues]
    exact List.mem_map_of_mem hd

/-- Every device is in one of the pools, whatever the strategy. -/
theorem perm_of_pools (h : Pooling.pools strategy devices = .ok pools) :
    (pools.flatMap (·.devices)).Perm devices := by
  cases strategy with
  | omni =>
    cases h
    simp
  | manual table => exact perm_of_byTable h
  | tablet =>
    cases h
    simpa using List.filter_append_perm Device.isTablet devices
  | capability c buckets =>
    cases h
    exact perm_of_byCharacteristic c buckets devices
  | perDevice =>
    cases h
    simp [List.flatMap_map]

/-- A partition is made of the pools that have devices, of devices whose serials differ. -/
theorem exists_of_partition (h : partition strategy devices = .ok pools) :
    (devices.map (·.id)).Nodup ∧ ∃ all, Pooling.pools strategy devices = .ok all ∧
      pools = all.filter fun p => !p.devices.isEmpty := by
  unfold partition at h
  split at h
  · cases h
  · rename_i fresh
    dsimp only at h
    split at h
    · cases h
    · obtain ⟨all, grouped, h⟩ := bind_eq_ok_iff.1 h
      split at h
      · cases h
      · cases h
        exact ⟨(nodup_of_firstRepeat fresh).1, all, grouped, rfl⟩

/-- Devices whose serials differ are partitioned as the strategy says, pools without devices left out. -/
theorem partition_of_nodup (apart : (devices.map (·.id)).Nodup) (full : devices ≠ []) :
    partition strategy devices =
      (Pooling.pools strategy devices).map fun all => all.filter fun p => !p.devices.isEmpty := by
  unfold partition
  rw [firstRepeat_of_nodup apart]
  simp only [List.isEmpty_iff, full, if_false]
  cases grouped : Pooling.pools strategy devices with
  | error e => rfl
  | ok all =>
    -- Some pool has the first device.
    obtain ⟨d, rest, rfl⟩ := List.exists_cons_of_ne_nil full
    obtain ⟨p, hp, hd⟩ := List.mem_flatMap.1 ((perm_of_pools grouped).mem_iff.2 List.mem_cons_self)
    have kept : p ∈ all.filter fun p => !p.devices.isEmpty :=
      List.mem_filter.2 ⟨hp, by simpa using List.ne_nil_of_mem hd⟩
    simp only [bind, Except.bind, pure, Except.pure, Except.map]
    rw [if_neg (List.ne_nil_of_mem kept)]

/-- No two devices of a pool have the same serial. -/
theorem nodup_of_partition (h : partition strategy devices = .ok pools) (hp : pool ∈ pools) :
    pool.deviceIds.Nodup := by
  obtain ⟨fresh, all, grouped, rfl⟩ := exists_of_partition h
  have sub := sublist_of_pools grouped (List.mem_filter.1 hp).1
  exact fresh.sublist (sub.map _)

theorem ne_nil_of_partition (h : partition strategy devices = .ok pools) (hp : pool ∈ pools) :
    pool.devices ≠ [] := by
  obtain ⟨-, all, -, rfl⟩ := exists_of_partition h
  simpa using (List.mem_filter.1 hp).2

/-- **Every device is in one pool of the partition**, and none in two. -/
theorem perm_of_partition (h : partition strategy devices = .ok pools) :
    (pools.flatMap (·.devices)).Perm devices := by
  obtain ⟨-, all, grouped, rfl⟩ := exists_of_partition h
  have emptied : (all.filter fun p => !p.devices.isEmpty).flatMap (·.devices) =
      all.flatMap (·.devices) := by
    clear grouped h
    induction all with
    | nil => rfl
    | cons p rest ih =>
      rw [List.filter_cons, List.flatMap_cons, ← ih]
      cases none : p.devices <;> simp [none]
  rw [emptied]
  exact perm_of_pools grouped

/-- No two devices of all the pools together have the same serial. -/
theorem nodup_serials_of_partition (h : partition strategy devices = .ok pools) :
    ((pools.flatMap (·.devices)).map (·.id)).Nodup := by
  obtain ⟨fresh, -⟩ := exists_of_partition h
  exact ((perm_of_partition h).map (·.id)).nodup_iff.2 fresh

end Pooling

end TestFleet
