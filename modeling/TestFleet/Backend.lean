import TestFleet.Run.Context
import TestFleet.Action
/-!
# Backends

A backend runs one attempt at a test on a device. The backends of a run are kept in order: the
first that supports a device and a test is the one that runs it.
-/
namespace TestFleet

/-- Why a backend has no result. -/
inductive BackendError where
  | launch (detail : String)
  | disconnected (detail : String)
  | timeout (detail : String)
  | io (failure : Files.Failure)
  | other (detail : String)
  deriving DecidableEq, Repr, Inhabited

/-- The error as people read it. -/
def BackendError.message : BackendError → String
  | .launch detail => "Failed to launch test: " ++ detail
  | .disconnected detail => "Lost connection to test output: " ++ detail
  | .timeout detail => "Timeout: " ++ detail
  | .io failure => "IO error: " ++ failure.message
  | .other detail => "Backend error: " ++ detail

/-- What runs attempts. -/
structure Backend (W : Type) where
  id : String
  supports : Device → TestCase → Bool
  execute : AttemptContext → Action W BackendError TestResult

namespace Backend

variable {W : Type}

/-- The backend of a name. -/
def find? (backends : List (Backend W)) (id : String) : Option (Backend W) :=
  backends.find? (·.id == id)

/-- The names of the backends that support a test on a device, in order. -/
def supporting (backends : List (Backend W)) (device : Device) (test : TestCase) : List String :=
  (backends.filter fun b => b.supports device test).map (·.id)

end Backend

end TestFleet
