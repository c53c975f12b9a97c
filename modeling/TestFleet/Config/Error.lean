import TestFleet.Plugin.Point
/-!
# Configuration errors

What can be wrong with a configuration. Each of these stops a run before any test is scheduled.
-/
namespace TestFleet

/-- Why a component could not be built from its parameters. -/
inductive PluginFault where
  /-- A parameter is missing, unknown, or has the wrong shape. -/
  | parameters (label : String)
  /-- A pattern is not a regular expression. -/
  | pattern
  /-- The component refuses its parameters for a reason of its own. -/
  | refused (reason : String)
  deriving DecidableEq, Repr, Inhabited

/-- The fault as people read it. -/
def PluginFault.message : PluginFault → String
  | .parameters label => "invalid parameters for '" ++ label ++ "'"
  | .pattern => "invalid regex"
  | .refused reason => reason

/-- A configuration problem. -/
inductive ConfigError where
  | malformedIdentifier (point : Plugin.Point) (id : String)
  | unknownPlugin (point : Plugin.Point) (id : String)
  | plugin (point : Plugin.Point) (label : String) (fault : PluginFault)
  | noPoolMatched (serial : String)
  | noPools (reason : String)
  | duplicateDevice (serial : String)
  | noCompatibleDevice (pool test : String)
  | invalid (reason : String)
  deriving DecidableEq, Repr, Inhabited

/-- The problem as people read it. -/
def ConfigError.message : ConfigError → String
  | .malformedIdentifier point id => "malformed " ++ point.name ++ " identifier '" ++ id ++ "'"
  | .unknownPlugin point id => "unknown " ++ point.name ++ " '" ++ id ++ "'"
  | .plugin point label fault =>
    "failed to instantiate " ++ point.name ++ " '" ++ label ++ "': " ++ fault.message
  | .noPoolMatched serial => "no pool-partitioning strategy matched device " ++ serial
  | .noPools reason => "no device pools: " ++ reason
  | .duplicateDevice serial => "duplicate device serial " ++ serial
  | .noCompatibleDevice pool test =>
    test ++ " has no device with a compatible backend in pool " ++ pool
  | .invalid reason => "invalid configuration: " ++ reason

end TestFleet
