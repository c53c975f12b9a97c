import TestFleet.Order.Ascending
/-!
# Devices and pools

A device is something that runs tests: its serial, which no other device of a run shares, and what
it can do. A pool is a named list of devices that work on one queue.
-/
namespace TestFleet

/-- The serial of a device. -/
structure DeviceId where
  serial : String
  deriving DecidableEq, Repr, Inhabited, Hashable

/-- The name of a pool. -/
structure PoolId where
  name : String
  deriving DecidableEq, Repr, Inhabited, Hashable

/-- Serials by code points. -/
def DeviceId.before (a b : DeviceId) : Bool := Ascending.textBefore a.serial b.serial

/-- Pool names by code points. -/
def PoolId.before (a b : PoolId) : Bool := Ascending.textBefore a.name b.name

/-- Serials that neither comes before the other are equal. -/
theorem DeviceId.eq_of_not_before (a b : DeviceId) (h : a.before b = false)
    (h' : b.before a = false) : a = b := by
  have same : a.serial = b.serial := Ascending.eq_of_not_textBefore _ _ h h'
  cases a
  cases b
  exact congrArg DeviceId.mk same

/-- The form of a device. -/
inductive DisplayClass where
  | phone
  | tablet
  | tv
  | watch
  | other
  deriving DecidableEq, Repr, Inhabited

namespace DisplayClass

/-- Every form, in ascending order. -/
def all : List DisplayClass := [.phone, .tablet, .tv, .watch, .other]

/-- The name of a form. -/
def name : DisplayClass → String
  | .phone => "phone"
  | .tablet => "tablet"
  | .tv => "tv"
  | .watch => "watch"
  | .other => "other"

/-- The form of a name. -/
def ofName? (s : String) : Option DisplayClass := all.find? (·.name == s)

/-- The place of a form in the order phone, tablet, tv, watch, other. -/
def rank : DisplayClass → Nat
  | .phone => 0
  | .tablet => 1
  | .tv => 2
  | .watch => 3
  | .other => 4

end DisplayClass

/-- A device and what it can do. -/
structure Device where
  id : DeviceId
  model : String
  platformVersion : Nat
  display : DisplayClass
  features : List String
  deriving DecidableEq, Repr, Inhabited

namespace Device

/-- A device of which only the serial is known. -/
def bare (serial : String) : Device := ⟨⟨serial⟩, "", 0, .phone, []⟩

/-- Whether the device is a tablet. -/
def isTablet (d : Device) : Bool := d.display == .tablet

/-- Whether the device has a feature. -/
def supports (d : Device) (feature : String) : Bool := d.features.contains feature

end Device

/-- A named list of devices that work on one queue. -/
structure DevicePool where
  id : PoolId
  devices : List Device
  deriving DecidableEq, Repr, Inhabited

namespace DevicePool

/-- The serials of the pool's devices, in order. -/
def deviceIds (p : DevicePool) : List DeviceId := p.devices.map (·.id)

/-- The first device with a serial. -/
def device? (p : DevicePool) (id : DeviceId) : Option Device :=
  p.devices.find? (·.id == id)

end DevicePool

end TestFleet
