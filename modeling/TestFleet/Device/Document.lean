import TestFleet.Device
import TestFleet.Datum.Record
/-!
# Devices in documents

Only the serial of a device is required. Features are a set: ascending, each once.
-/
namespace TestFleet

namespace Device

open Datum

/-- The names of the fields of a device. -/
def fieldNames : List String := ["serial", "model", "platform_version", "display", "features"]

/-- Reads a device, given what may stand under the name of its form. -/
def reader (vacant : Datum → Bool) : Datum → Option Device :=
  record .ignored do
    let serial ← required "serial" text?
    let model ← withDefault "model" "" text?
    let version ← withDefault "platform_version" 0 (nat? 32)
    let display ← withDefault "display" DisplayClass.phone fun d => do
      DisplayClass.ofName? (← choice? vacant d)
    let features ← withDefault "features" [] (list? text?)
    pure ⟨⟨serial⟩, model, version, display, Ascending.ofList Ascending.textBefore features⟩

/-- Reads a device. -/
def ofDatum? : Datum → Option Device := reader isNull

/-- Reads a device among the parameters of a component. -/
def ofParam? : Datum → Option Device := reader isEmptied

/-- Writes a device. -/
def toDatum (d : Device) : Datum :=
  .table [("serial", .text d.id.serial), ("model", .text d.model),
    ("platform_version", .int d.platformVersion), ("display", .text d.display.name),
    ("features", .list (d.features.map .text))]

end Device

end TestFleet
