import Mathlib.Algebra.Order.Floor.Div
import Mathlib.Data.Finset.Card
import Mathlib.Data.List.TakeWhile
import TestFleet.Proofs.Pooling
/-!
# Pools of ranges of values

When devices are grouped by a characteristic, their distinct values are cut into ranges of one size, of
which only the last may be smaller, and the size is the smallest that needs no more ranges than asked for.
A device goes to the range of its value. The name of a pool tells the smallest and the largest value in it
(`Pooling.Bucketed`), and two ranges never share a name (`Pooling.nodup_ids_of_byCharacteristic`).
-/
namespace TestFleet

/-! ## Lists cut into parts -/

section Chunks

variable {α : Type} {n fuel : Nat} {xs part : List α}

theorem length_le_of_mem_chunks (hp : part ∈ chunks n fuel xs) : part.length ≤ n := by
  induction fuel generalizing xs with
  | zero => cases xs <;> simp [chunks] at hp
  | succ fuel ih =>
    cases xs with
    | nil => simp [chunks] at hp
    | cons x rest =>
      rcases List.mem_cons.1 hp with rfl | later
      · exact List.length_take_le n _
      · exact ih later

theorem chunks_eq_nil_iff (positive : 0 < n) (enough : xs.length ≤ fuel) :
    chunks n fuel xs = [] ↔ xs = [] := by
  constructor
  · intro none
    rw [← flatten_chunks positive enough, none]
    rfl
  · rintro rfl
    cases fuel <;> rfl

/-- Every part but the last is full. -/
theorem length_of_mem_dropLast_chunks (positive : 0 < n) (enough : xs.length ≤ fuel)
    (hp : part ∈ (chunks n fuel xs).dropLast) : part.length = n := by
  induction fuel generalizing xs with
  | zero => cases xs <;> simp [chunks] at hp
  | succ fuel ih =>
    cases xs with
    | nil => simp [chunks] at hp
    | cons x rest =>
      have shorter : ((x :: rest).drop n).length ≤ fuel := by
        rw [List.length_drop]
        omega
      rw [chunks] at hp
      by_cases last : (x :: rest).drop n = []
      · rw [(chunks_eq_nil_iff positive shorter).2 last] at hp
        cases hp
      · rw [List.dropLast_cons_of_ne_nil (mt (chunks_eq_nil_iff positive shorter).1 last)] at hp
        rcases List.mem_cons.1 hp with rfl | later
        · rw [List.length_take, Nat.min_eq_left]
          have := List.drop_eq_nil_iff.not.1 last
          omega
        · exact ih shorter later

/-- There are no more parts than it takes. -/
theorem length_chunks_le {k : Nat} (enough : xs.length ≤ n * k) :
    (chunks n fuel xs).length ≤ k := by
  induction fuel generalizing xs k with
  | zero => cases xs <;> simp [chunks]
  | succ fuel ih =>
    cases xs with
    | nil => simp [chunks]
    | cons x rest =>
      cases k with
      | zero => simp at enough
      | succ k =>
        have shorter : ((x :: rest).drop n).length ≤ n * k := by
          rw [List.length_drop]
          rw [Nat.mul_succ] at enough
          omega
        rw [chunks, List.length_cons]
        exact Nat.succ_le_succ (ih shorter)

end Chunks

namespace Characteristic

/-! ## Names -/

/-- The value of a device as its pool's name tells it. -/
def text (c : Characteristic) (d : Device) : String :=
  match c with
  | .platformVersion => toString d.platformVersion
  | .display => d.display.name

/-- How many distinct values there are among devices. -/
def distinct (c : Characteristic) (devices : List Device) : Nat := (devices.map c.value).toFinset.card

variable {c : Characteristic} {d e low high low' high' : Device}

@[simp]
theorem label_value (c : Characteristic) (d : Device) : c.label (c.value d) = c.text d := by
  cases c with
  | platformVersion => rfl
  | display =>
    simp only [label, value, text]
    cases d.display <;> rfl

/-- Values that are told alike are the same. -/
theorem value_eq_of_text_eq (same : c.text d = c.text e) : c.value d = c.value e := by
  cases c with
  | platformVersion =>
    have digits : Nat.toDigits 10 d.platformVersion = Nat.toDigits 10 e.platformVersion := by
      rw [← Nat.toList_repr, ← Nat.toList_repr]
      exact congrArg String.toList same
    simp only [value]
    rw [← Nat.ofDigitChars_ten_toDigits (n := d.platformVersion), digits,
      Nat.ofDigitChars_ten_toDigits]
  | display =>
    simp only [value, text] at same ⊢
    cases first : d.display <;> cases second : e.display <;> simp_all [DisplayClass.name]

theorem dot_notMem_text (c : Characteristic) (d : Device) : '.' ∉ (c.text d).toList := by
  cases c with
  | platformVersion =>
    intro dot
    have digit := Nat.isDigit_of_mem_toDigits (by decide) (by decide)
      (show '.' ∈ Nat.toDigits 10 d.platformVersion from Nat.toList_repr ▸ dot)
    exact absurd digit (by decide)
  | display =>
    simp only [text]
    cases d.display <;> decide

/-- The name of a pool tells its smallest value and its largest, where they differ. -/
theorem poolName_value (c : Characteristic) (low high : Device) :
    c.poolName (c.value low) (c.value high) =
      c.name ++ "-" ++ if c.value low = c.value high then c.text low
        else c.text low ++ ".." ++ c.text high := by
  unfold poolName
  split <;> simp [String.append_assoc]

/-- What a name tells up to the first dot is the smallest value. -/
theorem takeWhile_told (c : Characteristic) (low high : Device) :
    (if c.value low = c.value high then c.text low
      else c.text low ++ ".." ++ c.text high).toList.takeWhile (· != '.') = (c.text low).toList := by
  have dotless : ∀ a ∈ (c.text low).toList, (a != '.') = true := by
    intro a inside
    rw [bne_iff_ne]
    rintro rfl
    exact dot_notMem_text c low inside
  split
  · exact List.takeWhile_eq_self_iff.2 dotless
  · simp only [String.toList_append, List.append_assoc]
    rw [List.takeWhile_append_of_pos dotless]
    exact List.append_nil _

/-- Pools of one name have the same smallest value. -/
theorem value_eq_of_poolName_eq
    (same : c.poolName (c.value low) (c.value high) = c.poolName (c.value low') (c.value high')) :
    c.value low = c.value low' := by
  rw [poolName_value, poolName_value] at same
  have told := (String.append_right_inj _).1 same
  refine value_eq_of_text_eq (String.toList_inj.1 ?_)
  rw [← takeWhile_told c low high, told, takeWhile_told]

end Characteristic

namespace Pooling

/-! ## Ranges -/

/-- How many values a pool takes: as few as make no more pools than asked for, nor than there are values. -/
def share (m buckets : Nat) : Nat := m ⌈/⌉ min (max buckets 1) m

theorem valuesPerPool_eq_share {m : Nat} (some : 0 < m) (buckets : Nat) :
    valuesPerPool m buckets = share m buckets := by
  have used : max m 1 = m := by omega
  unfold valuesPerPool share
  rw [used, Nat.ceilDiv_eq_add_pred_div, Nat.max_eq_left]
  exact (Nat.one_le_div_iff (by omega)).2 (by omega)

/-- The ranges that the distinct values of some devices are cut into. -/
def ranges (c : Characteristic) (buckets : Nat) (devices : List Device) : List (List Nat) :=
  chunks (valuesPerPool (distinctValues c devices).length buckets) (distinctValues c devices).length
    (distinctValues c devices)

variable {c : Characteristic} {buckets : Nat} {devices : List Device} {range : List Nat} {v : Nat}

theorem byCharacteristic_eq :
    byCharacteristic c buckets devices = (ranges c buckets devices).map (rangePool c devices) := rfl

theorem valuesPerPool_pos (count buckets : Nat) : 0 < valuesPerPool count buckets := Nat.le_max_right _ 1

theorem flatten_ranges : (ranges c buckets devices).flatten = distinctValues c devices :=
  flatten_chunks (valuesPerPool_pos _ _) (Nat.le_refl _)

theorem ne_nil_of_mem_ranges (hr : range ∈ ranges c buckets devices) : range ≠ [] :=
  ne_nil_of_mem_chunks (valuesPerPool_pos _ _) hr

/-- Values ascend within each range and from range to range. -/
theorem ascending_ranges : (∀ range ∈ ranges c buckets devices, range.Pairwise (· < ·)) ∧
    (ranges c buckets devices).Pairwise fun r s => ∀ v ∈ r, ∀ w ∈ s, v < w := by
  rw [← List.pairwise_flatten, flatten_ranges]
  exact pairwise_distinctValues c devices

theorem length_distinctValues : (distinctValues c devices).length = c.distinct devices := by
  have apart : (distinctValues c devices).Nodup :=
    (pairwise_distinctValues c devices).imp Nat.ne_of_lt
  rw [← List.toFinset_card_of_nodup apart]
  congr 1
  ext v
  simp only [List.mem_toFinset]
  exact mem_distinctValues

/-- What a range spans among the values is what it holds. -/
theorem mem_of_spans {ranges : List (List Nat)} (full : ∀ range ∈ ranges, range ≠ [])
    (ascends : ranges.flatten.Pairwise (· < ·)) (hr : range ∈ ranges) (hv : v ∈ ranges.flatten)
    (spanned : spans range v = true) : v ∈ range := by
  obtain ⟨ahead, behind, rfl⟩ := List.append_of_mem hr
  obtain ⟨least, most⟩ := spans_iff.1 spanned
  have own := full range hr
  rw [List.flatten_append, List.flatten_cons] at ascends hv
  obtain ⟨-, rest, before⟩ := List.pairwise_append.1 ascends
  obtain ⟨-, -, after⟩ := List.pairwise_append.1 rest
  rcases List.mem_append.1 hv with earlier | here
  · have := before v earlier _ (List.mem_append_left _ (head?_getD_mem own))
    omega
  · rcases List.mem_append.1 here with inside | later
    · exact inside
    · have := after _ (getLast?_getD_mem own) v later
      omega

/-- The values in a pool are those of its range. -/
theorem mem_values_rangePool (hr : range ∈ ranges c buckets devices) :
    v ∈ (rangePool c devices range).devices.map c.value ↔ v ∈ range := by
  have whole : (ranges c buckets devices).flatten = distinctValues c devices := flatten_ranges
  have ascends : (ranges c buckets devices).flatten.Pairwise (· < ·) := by
    rw [whole]
    exact pairwise_distinctValues c devices
  constructor
  · intro told
    obtain ⟨d, member, rfl⟩ := List.mem_map.1 told
    obtain ⟨listed, spanned⟩ := List.mem_filter.1 member
    refine mem_of_spans (fun _ => ne_nil_of_mem_ranges) ascends hr ?_ spanned
    rw [whole, mem_distinctValues]
    exact List.mem_map_of_mem listed
  · intro inside
    have known : v ∈ devices.map c.value := by
      rw [← mem_distinctValues, ← whole]
      exact List.mem_flatten_of_mem hr inside
    obtain ⟨d, listed, rfl⟩ := List.mem_map.1 known
    exact List.mem_map_of_mem (List.mem_filter.2
      ⟨listed, spans_of_mem (ascending_ranges.1 range hr) inside⟩)

theorem distinct_rangePool (hr : range ∈ ranges c buckets devices) :
    c.distinct (rangePool c devices range).devices = range.length := by
  have apart : range.Nodup := (ascending_ranges.1 range hr).imp Nat.ne_of_lt
  rw [← List.toFinset_card_of_nodup apart]
  unfold Characteristic.distinct
  congr 1
  ext v
  simp only [List.mem_toFinset]
  exact mem_values_rangePool hr

theorem ne_nil_of_rangePool (hr : range ∈ ranges c buckets devices) :
    (rangePool c devices range).devices ≠ [] := by
  intro none
  obtain ⟨v, rest, rfl⟩ := List.exists_cons_of_ne_nil (ne_nil_of_mem_ranges hr)
  have member := (mem_values_rangePool hr).2 (List.mem_cons_self (a := v))
  rw [none] at member
  cases member

/-- The ends of a range are values of devices of its pool, and no device of it has a value beyond them. -/
theorem exists_ends (hr : range ∈ ranges c buckets devices) :
    ∃ low ∈ (rangePool c devices range).devices, ∃ high ∈ (rangePool c devices range).devices,
      c.value low = range.head?.getD 0 ∧ c.value high = range.getLast?.getD 0 ∧
      ∀ d ∈ (rangePool c devices range).devices,
        c.value low ≤ c.value d ∧ c.value d ≤ c.value high := by
  have full := ne_nil_of_mem_ranges hr
  obtain ⟨low, inside, first⟩ :=
    List.mem_map.1 ((mem_values_rangePool hr).2 (head?_getD_mem full))
  obtain ⟨high, inside', last⟩ :=
    List.mem_map.1 ((mem_values_rangePool hr).2 (getLast?_getD_mem full))
  refine ⟨low, inside, high, inside', first, last, fun d member => ?_⟩
  rw [first, last]
  exact spans_iff.1 (List.mem_filter.1 member).2

/-- Ranges ascend, and so do the pools made of them. -/
theorem ascending_byCharacteristic : (byCharacteristic c buckets devices).Pairwise fun p q =>
    ∀ d ∈ p.devices, ∀ e ∈ q.devices, c.value d < c.value e := by
  rw [byCharacteristic_eq, List.pairwise_map]
  refine ascending_ranges.2.imp_of_mem fun {r s} hr hs lower d hd e he => ?_
  exact lower _ ((mem_values_rangePool hr).1 (List.mem_map_of_mem hd)) _
    ((mem_values_rangePool hs).1 (List.mem_map_of_mem he))

/-- No two pools of ranges have the same name. -/
theorem nodup_ids_of_byCharacteristic :
    ((byCharacteristic c buckets devices).map (·.id)).Nodup := by
  rw [byCharacteristic_eq, List.map_map, List.nodup_iff_pairwise_ne, List.pairwise_map]
  refine ascending_ranges.2.imp_of_mem fun {r s} hr hs lower same => ?_
  obtain ⟨low, -, high, -, first, last, -⟩ := exists_ends hr
  obtain ⟨low', -, high', -, first', last', -⟩ := exists_ends hs
  have names : c.poolName (c.value low) (c.value high) =
      c.poolName (c.value low') (c.value high') := by
    rw [first, last, first', last']
    exact congrArg PoolId.name same
  have least := lower _ (head?_getD_mem (ne_nil_of_mem_ranges hr)) _
    (head?_getD_mem (ne_nil_of_mem_ranges hs))
  rw [← first, ← first', Characteristic.value_eq_of_poolName_eq names] at least
  exact Nat.lt_irrefl _ least

/-- How the pools lie that devices are grouped into by a characteristic: there are as many as asked for at
most, the values of one lie below those of the next, and all pools but the last have the same number of
distinct values. Each has a name that tells its smallest value and its largest. -/
structure Bucketed (c : Characteristic) (buckets : Nat) (devices : List Device)
    (pools : List DevicePool) : Prop where
  some : 1 ≤ pools.length
  few : pools.length ≤ max 1 buckets
  used : pools.length ≤ c.distinct devices
  together : ∀ pool ∈ pools, ∀ d ∈ pool.devices, ∀ e ∈ devices, c.value e = c.value d →
    e ∈ pool.devices
  ascending : pools.Pairwise fun p q => ∀ d ∈ p.devices, ∀ e ∈ q.devices, c.value d < c.value e
  even : ∀ pool ∈ pools.dropLast, c.distinct pool.devices = share (c.distinct devices) buckets
  last : ∀ pool ∈ pools.getLast?, 1 ≤ c.distinct pool.devices ∧
    c.distinct pool.devices ≤ share (c.distinct devices) buckets
  named : ∀ pool ∈ pools, ∃ low ∈ pool.devices, ∃ high ∈ pool.devices,
    (∀ d ∈ pool.devices, c.value low ≤ c.value d ∧ c.value d ≤ c.value high) ∧
    pool.id.name = c.name ++ "-" ++
      if c.value low = c.value high then c.text low else c.text low ++ ".." ++ c.text high

theorem distinct_pos (full : devices ≠ []) : 0 < c.distinct devices := by
  obtain ⟨d, rest, rfl⟩ := List.exists_cons_of_ne_nil full
  exact Finset.card_pos.2 ⟨c.value d, by simp⟩

/-- Every range but the last takes its share of the values. -/
theorem valuesPerPool_distinctValues (full : devices ≠ []) :
    valuesPerPool (distinctValues c devices).length buckets = share (c.distinct devices) buckets := by
  rw [length_distinctValues, valuesPerPool_eq_share (distinct_pos full)]

/-- There are as many pools as asked for at most, and as many as there are values. -/
theorem length_byCharacteristic_le (full : devices ≠ []) :
    (byCharacteristic c buckets devices).length ≤ min (max buckets 1) (c.distinct devices) := by
  have values : 0 < c.distinct devices := distinct_pos full
  have enough : c.distinct devices ≤ min (max buckets 1) (c.distinct devices) •
      (c.distinct devices ⌈/⌉ min (max buckets 1) (c.distinct devices)) :=
    le_smul_ceilDiv (by omega)
  rw [byCharacteristic_eq, List.length_map]
  refine length_chunks_le ?_
  rwa [valuesPerPool_distinctValues full, length_distinctValues, Nat.mul_comm]

theorem length_byCharacteristic_pos (full : devices ≠ []) :
    0 < (byCharacteristic c buckets devices).length := by
  obtain ⟨d, rest, rfl⟩ := List.exists_cons_of_ne_nil full
  obtain ⟨pool, hp, -⟩ := List.mem_flatMap.1
    ((perm_of_byCharacteristic c buckets (d :: rest)).mem_iff.2 List.mem_cons_self)
  exact List.length_pos_of_mem hp

theorem bucketed_of_byCharacteristic (full : devices ≠ []) :
    Bucketed c buckets devices (byCharacteristic c buckets devices) := by
  have count : (byCharacteristic c buckets devices).length ≤ min (max buckets 1) (c.distinct devices) :=
    length_byCharacteristic_le full
  have made (pool : DevicePool) (hp : pool ∈ byCharacteristic c buckets devices) :
      ∃ range ∈ ranges c buckets devices, rangePool c devices range = pool := List.mem_map.1 hp
  refine {
    some := length_byCharacteristic_pos full
    few := by omega
    used := by omega
    together := ?together
    ascending := ascending_byCharacteristic
    even := ?even
    last := ?last
    named := ?named }
  case together =>
    intro pool hp d hd e listed same
    obtain ⟨range, -, rfl⟩ := made pool hp
    refine List.mem_filter.2 ⟨listed, ?_⟩
    simp only [same]
    exact (List.mem_filter.1 hd).2
  case even =>
    intro pool hp
    rw [byCharacteristic_eq, ← List.map_dropLast] at hp
    obtain ⟨range, early, rfl⟩ := List.mem_map.1 hp
    rw [distinct_rangePool (List.mem_of_mem_dropLast early), ← valuesPerPool_distinctValues full]
    exact length_of_mem_dropLast_chunks (valuesPerPool_pos _ _) (Nat.le_refl _) early
  case last =>
    intro pool last
    obtain ⟨range, hr, rfl⟩ := made pool (List.mem_of_getLast? last)
    rw [distinct_rangePool hr, ← valuesPerPool_distinctValues full]
    exact ⟨List.length_pos_of_ne_nil (ne_nil_of_mem_ranges hr), length_le_of_mem_chunks hr⟩
  case named =>
    intro pool hp
    obtain ⟨range, hr, rfl⟩ := made pool hp
    obtain ⟨low, inside, high, inside', first, last, between⟩ := exists_ends hr
    refine ⟨low, inside, high, inside', between, ?_⟩
    rw [← Characteristic.poolName_value, first, last]
    rfl

/-- Every range has a device, so no pool is left out. -/
theorem partition_capability (full : devices ≠ []) (apart : (devices.map (·.id)).Nodup) :
    partition (.capability c buckets) devices = .ok (byCharacteristic c buckets devices) := by
  rw [partition_of_nodup apart full]
  simp only [Pooling.pools, Except.map]
  congr 1
  refine List.filter_eq_self.2 fun pool hp => ?_
  obtain ⟨range, hr, rfl⟩ := List.mem_map.1 hp
  simpa using ne_nil_of_rangePool hr

/-- Devices that are grouped by a characteristic go to contiguous ranges of its values: at most as many as
asked for, one at least, each named for the smallest and the largest value found in it. -/
theorem bucketed_of_capability (full : devices ≠ []) (apart : (devices.map (·.id)).Nodup) :
    ∃ pools, partition (.capability c buckets) devices = .ok pools ∧
      Bucketed c buckets devices pools :=
  ⟨byCharacteristic c buckets devices, partition_capability full apart,
    bucketed_of_byCharacteristic full⟩

end Pooling

namespace Sample

/-- A device of a version. -/
def versioned (serial : String) (version : Nat) : Device :=
  { Device.bare serial with platformVersion := version }

/-- Six devices of five versions. -/
def versions : List Device :=
  [versioned "a" 30, versioned "b" 9, versioned "c" 34, versioned "d" 30, versioned "e" 28,
    versioned "f" 33]

end Sample

open Sample in
/-- Five values for four pools go by two, and three pools are enough. -/
theorem bucketed_of_versions :
    versions ≠ [] ∧ (versions.map (·.id)).Nodup ∧
      ∃ pools, Pooling.partition (.capability .platformVersion 4) versions = .ok pools ∧
        Pooling.Bucketed .platformVersion 4 versions pools ∧
        pools.map (fun p => (p.id.name, p.deviceIds.map (·.serial))) =
          [("platform_version-9..28", ["b", "e"]), ("platform_version-30..33", ["a", "d", "f"]),
            ("platform_version-34", ["c"])] := by
  have full : versions ≠ [] := by decide
  have apart : (versions.map (·.id)).Nodup := by decide
  obtain ⟨pools, grouped, bucketed⟩ :
      ∃ pools, Pooling.partition (.capability .platformVersion 4) versions = .ok pools ∧
        Pooling.Bucketed .platformVersion 4 versions pools :=
    Pooling.bucketed_of_capability full apart
  refine ⟨full, apart, pools, grouped, bucketed, ?_⟩
  obtain rfl := Except.ok.inj ((Pooling.partition_capability full apart).symm.trans grouped)
  decide

end TestFleet
