import TestFleet.Plugin.Registry
import TestFleet.Backend.DryRun
import TestFleet.Backend.Command
import TestFleet.Rule.Attempt
/-!
# Built-in components

The components that every configuration can name. Their identifiers begin with `builtin`.
-/
namespace TestFleet.Registry

variable {W : Type} [Hosted W]

/-- Builds hooks as rules of some scope. -/
def hookFactory {C R : Type} [Placeholders C] : RuleFactory W C R := fun _ e =>
  .ofExcept ((Hook.ofEntry e).map fun hook => [hook.rule])

/-- The built-in components; a shuffle without a seed of its own takes the one given. -/
def builtin (seed : UInt64) : Registry W where
  providers :=
    [("builtin.static", fun _ e => .ofExcept (Provider.listedOfEntry e)),
      ("builtin.command", fun _ e => .ofExcept (Provider.ofCommandEntry e))]
  backends :=
    [("builtin.shell", fun _ e => .ofExcept ((CommandBackend.ofEntry e).map (·.backend))),
      ("builtin.dry-run", fun _ e => .ofExcept ((DryRun.ofEntry e).map (·.backend)))]
  runRules := [("builtin.hook", hookFactory)]
  poolRules := [("builtin.hook", hookFactory)]
  deviceRules := [("builtin.hook", hookFactory)]
  attemptRules :=
    [("builtin.hook", hookFactory),
      ("builtin.capture-trace", fun _ e => .ofExcept ((captureTraceOfEntry e).map ([·]))),
      ("builtin.tag-retry", fun _ _ => .done [tagRetryRule])]
  suiteRules :=
    [("builtin.filter", fun _ e => .ofExcept ((Filter.ofEntry e).map fun f => [f.rule])),
      ("builtin.shuffle", fun _ e => .ofExcept ((shuffleOfEntry seed e).map ([·])))]

end TestFleet.Registry
