import TestFleet.Config.Document
import TestFleet.Toml.Parser
import TestFleet.Files.Tree
/-!
# Loading configurations

A configuration is a TOML document, given as text or as a file.
-/
namespace TestFleet

/-- Why there is no configuration. -/
inductive LoadError where
  | unreadable (path : String) (failure : Files.Failure)
  /-- The text, of a file or not, is no configuration. -/
  | malformed (path : Option String)
  deriving DecidableEq, Repr, Inhabited

/-- The error as people read it, without what caused it. -/
def LoadError.headline : LoadError → String
  | .unreadable path _ => "Failed to read config file: " ++ path
  | .malformed (some path) => "Failed to parse config file: " ++ path
  | .malformed none => "Failed to parse config"

/-- The error as people read it. -/
def LoadError.message : LoadError → String
  | .unreadable path failure =>
    (LoadError.unreadable path failure).headline ++ ": " ++ failure.message
  | e => e.headline

namespace Config

/-- The configuration that a text is. -/
def ofText? (text : String) : Option Config := do ofDatum? (← Toml.parse? text)

/-- Reads a configuration from a text. -/
def parse (text : String) : Except LoadError Config :=
  match ofText? text with
  | some c => .ok c
  | none => .error (.malformed none)

/-- Reads a configuration from a file. -/
def load (files : Files.Tree) (path : String) : Except LoadError Config :=
  match files.readText path with
  | .error f => .error (.unreadable path f)
  | .ok text =>
    match ofText? text with
    | some c => .ok c
    | none => .error (.malformed (some path))

end Config

end TestFleet
