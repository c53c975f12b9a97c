import TestFleet.Config.Error
import TestFleet.Provider
import TestFleet.Suite
import TestFleet.Rule.Pipeline
/-!
# What stops a run

A run stops before it schedules anything when its configuration, its devices or its suite are
wrong, and later when rules refuse a scope or an identity was changed.
-/
namespace TestFleet

/-- Why a run stopped. -/
inductive RunError where
  | config (error : ConfigError)
  | provider (error : ProviderError)
  | suite (pool : PoolId) (error : SuiteError)
  | pipeline (error : PipelineError)
  /-- Another pool failed, and the run was called off. -/
  | aborted
  deriving DecidableEq, Repr, Inhabited

/-- The error as people read it. -/
def RunError.message : RunError → String
  | .config e => e.message
  | .provider e => "Device provider failed: " ++ e.message
  | .suite pool e => "Failed to load the suite for pool " ++ pool.name ++ ": " ++ e.message
  | .pipeline e => e.message
  | .aborted => "Run aborted"

end TestFleet
