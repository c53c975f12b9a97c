import TestFleet.Run.Context
import TestFleet.Shell.Quoting
import TestFleet.Text.Replace
/-!
# Placeholders in commands

A command is a template: a name between braces stands for a value of the scope, quoted for the
shell. The values are put in one name after the other, in ascending order of the names.
-/
namespace TestFleet

/-- Contexts that have values for placeholders. -/
class Placeholders (C : Type) where
  /-- The values, in ascending order of their names. -/
  placeholders : C → List (String × String)

open Placeholders (placeholders)

instance : Placeholders RunContext where
  placeholders c := [("output_dir", c.outputDir), ("run", c.runId.text)]

instance : Placeholders PoolContext where
  placeholders c := Ascending.mapOfList (placeholders c.run ++ [("pool", c.pool.id.name)])

instance : Placeholders DeviceContext where
  placeholders c := Ascending.mapOfList (placeholders c.inPool
    ++ [("device", c.device.id.serial), ("platform_version", toString c.device.platformVersion)])

instance : Placeholders AttemptContext where
  placeholders c :=
    let test := c.item.test
    Ascending.mapOfList (placeholders c.onDevice
      ++ [("test", test.display), ("class", test.qualifiedClass), ("method", test.method),
        ("package", test.package), ("kind", test.kind), ("attempt", toString c.item.failures),
        ("artifacts", c.artifactRoot)])

/-- A name as a template holds it. -/
def placeholder (name : String) : List Char := '\x7b' :: name.toList ++ ['\x7d']

/-- A template with values put in. -/
def substitute (values : List (String × String)) (template : String) : String :=
  String.ofList <| values.foldl (fun text (name, value) =>
    Text.replaceChars (placeholder name) (Shell.quoteChars value.toList) text) template.toList

end TestFleet
