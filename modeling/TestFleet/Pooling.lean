import TestFleet.Config.Schema
import TestFleet.Device
/-!
# Partitioning devices into pools

`partition` puts every device into exactly one pool, in the order of the device list; pools
without devices are left out. A serial that occurs twice, an empty list, a serial that two places
of a manual table claim, and a device that no manual pool lists are errors, looked for in that
order.
-/
namespace TestFleet

/-- The first element that an earlier one equals. -/
def firstRepeat {α : Type} [DecidableEq α] (seen : List α) : List α → Option α
  | [] => none
  | a :: rest => if a ∈ seen then some a else firstRepeat (a :: seen) rest

/-- A list cut into parts of `n`, the last one shorter if need be. -/
def chunks {α : Type} (n : Nat) : Nat → List α → List (List α)
  | _, [] => []
  | 0, _ :: _ => []
  | fuel + 1, a :: rest => (a :: rest).take n :: chunks n fuel ((a :: rest).drop n)

namespace Characteristic

/-- The value of a device, as a number in the characteristic's order. -/
def value (c : Characteristic) (d : Device) : Nat :=
  match c with
  | .platformVersion => d.platformVersion
  | .display => d.display.rank

/-- The name of a value. -/
def label (c : Characteristic) (n : Nat) : String :=
  match c with
  | .platformVersion => toString n
  | .display => (DisplayClass.all[n]?.getD .other).name

/-- The name of the pool for the values from `low` to `high`. -/
def poolName (c : Characteristic) (low high : Nat) : String :=
  if low = high then c.name ++ "-" ++ c.label low
  else c.name ++ "-" ++ c.label low ++ ".." ++ c.label high

end Characteristic

namespace Pooling

/-- The values of a characteristic among devices, ascending and each once. -/
def distinctValues (c : Characteristic) (devices : List Device) : List Nat :=
  Ascending.ofList (fun a b => decide (a < b)) (devices.map c.value)

/-- How many values each pool takes when `count` values go into at most `buckets` pools. -/
def valuesPerPool (count buckets : Nat) : Nat :=
  let used := min (max buckets 1) (max count 1)
  max ((count + used - 1) / used) 1

/-- The pool of the devices whose value lies in a range of values. -/
def rangePool (c : Characteristic) (devices : List Device) (range : List Nat) : DevicePool :=
  let low := range.head?.getD 0
  let high := range.getLast?.getD 0
  ⟨⟨c.poolName low high⟩,
    devices.filter fun d => decide (low ≤ c.value d) && decide (c.value d ≤ high)⟩

/-- Pools of contiguous ranges of values. -/
def byCharacteristic (c : Characteristic) (buckets : Nat) (devices : List Device) :
    List DevicePool :=
  let values := distinctValues c devices
  (chunks (valuesPerPool values.length buckets) values.length values).map (rangePool c devices)

/-- Each listed serial with the pool that lists it, in order. -/
def listings (pools : List (String × List String)) : List (String × String) :=
  pools.flatMap fun (pool, serials) => serials.map (·, pool)

/-- The first serial that is listed again: the serial, its first pool and its second. -/
def firstDoubleListing (seen : List (String × String)) :
    List (String × String) → Option (String × String × String)
  | [] => none
  | (serial, pool) :: rest =>
    match seen.lookup serial with
    | some previous => some (serial, previous, pool)
    | none => firstDoubleListing ((serial, pool) :: seen) rest

/-- The pools of a manual table, by name. -/
def byTable (pools : List (String × List String)) (devices : List Device) :
    Except ConfigError (List DevicePool) :=
  let listed := listings pools
  match firstDoubleListing [] listed with
  | some (serial, first, second) =>
    .error (.invalid
      ("device " ++ serial ++ " is listed in pools " ++ first ++ " and " ++ second))
  | none =>
    match devices.find? fun d => (listed.lookup d.id.serial).isNone with
    | some d => .error (.noPoolMatched d.id.serial)
    | none =>
      .ok ((Ascending.ofList Ascending.textBefore (pools.map (·.1))).map fun pool =>
        ⟨⟨pool⟩, devices.filter fun d => listed.lookup d.id.serial == some pool⟩)

/-- The pools of a strategy, empty ones included. -/
def pools (strategy : Pooling) (devices : List Device) : Except ConfigError (List DevicePool) :=
  match strategy with
  | .omni => .ok [⟨⟨"omni"⟩, devices⟩]
  | .manual table => byTable table devices
  | .tablet =>
    .ok [⟨⟨"tablets"⟩, devices.filter Device.isTablet⟩,
      ⟨⟨"phones"⟩, devices.filter fun d => !d.isTablet⟩]
  | .capability c buckets => .ok (byCharacteristic c buckets devices)
  | .perDevice => .ok (devices.map fun d => ⟨⟨d.id.serial⟩, [d]⟩)

/-- Groups devices into pools. -/
def partition (strategy : Pooling) (devices : List Device) :
    Except ConfigError (List DevicePool) := do
  match firstRepeat [] (devices.map (·.id)) with
  | some id => throw (.duplicateDevice id.serial)
  | none =>
    if devices.isEmpty then throw (.noPools "the device provider returned no devices")
    let all ← pools strategy devices
    let found := all.filter fun p => !p.devices.isEmpty
    if found.isEmpty then throw (.noPools "the pooling strategy produced no pools")
    pure found

end Pooling

end TestFleet
