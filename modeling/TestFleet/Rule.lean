import TestFleet.Action
import TestFleet.Run.Result
/-!
# Rules

A rule acts before a scope and after it. On the way out a value is carried through the rules of
the scope: each may annotate it, but must leave its identity as it is.
-/
namespace TestFleet

/-- Values that are carried out through rules. -/
class Carried (R : Type) where
  /-- What no rule may change. -/
  Identity : Type
  decide : DecidableEq Identity
  identity : R → Identity
  /-- An identity as people read it. -/
  describe : Identity → String
  /-- What is done to a value once, before the first rule sees it. -/
  settle : R → R
  identity_settle : ∀ r, identity (settle r) = identity r

instance {R : Type} [Carried R] : DecidableEq (Carried.Identity R) := Carried.decide

instance : Carried TestResult where
  Identity := ResultIdentity
  decide := inferInstance
  identity := TestResult.identity
  describe := ResultIdentity.text
  settle := TestResult.settle
  identity_settle := TestResult.settle_identity

instance : Carried DeviceSummary where
  Identity := DeviceId
  decide := inferInstance
  identity := DeviceSummary.device
  describe := DeviceId.serial
  settle := id
  identity_settle _ := rfl

instance : Carried PoolResult where
  Identity := PoolId
  decide := inferInstance
  identity := PoolResult.pool
  describe := PoolId.name
  settle := id
  identity_settle _ := rfl

instance : Carried RunResult where
  Identity := RunId
  decide := inferInstance
  identity := RunResult.runId
  describe := RunId.text
  settle := id
  identity_settle _ := rfl

/-- Something done before and after a scope. -/
structure Rule (W C R : Type) where
  name : String
  before : C → Action W Reason Unit
  after : C → R → Action W Reason R

namespace Rule

/-- A rule that does nothing. -/
def idle {W C R : Type} (name : String) : Rule W C R :=
  ⟨name, fun _ => .give (), fun _ r => .give r⟩

end Rule

end TestFleet
