import TestFleet.Work.Item
import TestFleet.Config.Schema
import TestFleet.Result
/-!
# Retries

A failed attempt is repeated while its item has failed fewer times than the quota of a test allows
and the budget of the whole run is not used up. The quota of the test is looked at first, so a test
past its own quota takes nothing from the budget. If other devices are to be preferred, the next
attempt avoids the device that failed, unless no device of the pool would be left.
-/
namespace TestFleet

/-- The retries of a whole run. -/
structure RetryBudget where
  total : Nat
  remaining : Nat
  remaining_le_total : remaining ≤ total := by omega
  deriving DecidableEq, Repr

namespace RetryBudget

/-- A budget of which nothing is used. -/
def ofTotal (total : Nat) : RetryBudget := ⟨total, total, Nat.le_refl total⟩

/-- How many retries were taken. -/
def used (b : RetryBudget) : Nat := b.total - b.remaining

/-- Takes one retry, if one is left. -/
def take? (b : RetryBudget) : Option RetryBudget :=
  if b.remaining = 0 then none
  else some ⟨b.total, b.remaining - 1, Nat.le_trans (Nat.sub_le _ _) b.remaining_le_total⟩

end RetryBudget

namespace WorkItem

/-- Whether the quota of its test allows another attempt after a status. -/
def mayRetry (item : WorkItem) (settings : RetrySettings) (status : TestStatus) : Bool :=
  status.isFailure && item.failures < settings.perTest

/-- The next attempt after a failure on a device of a pool. -/
def nextAttempt (item : WorkItem) (settings : RetrySettings) (device : DeviceId)
    (pool : DevicePool) : WorkItem :=
  let elsewhere := item.successorExcluding device
  if settings.avoidFailedDevice && elsewhere.compatibleIn pool then elsewhere
  else item.successor

/-- The item to offer after a result, with the budget that is left; none if the result is final. -/
def retry? (item : WorkItem) (settings : RetrySettings) (result : TestResult) (pool : DevicePool)
    (budget : RetryBudget) : Option (WorkItem × RetryBudget) :=
  if item.mayRetry settings result.status then
    budget.take?.map fun left => (item.nextAttempt settings result.device pool, left)
  else none

end WorkItem

end TestFleet
