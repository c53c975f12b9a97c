import TestFleet.Work.Item
/-!
# Planned pools

What is known of a pool before a run starts: its devices, and the items that they are to run.
-/
namespace TestFleet

/-- A pool and its work. -/
structure PoolPlan where
  pool : DevicePool
  items : List WorkItem
  deriving DecidableEq, Repr, Inhabited

namespace PoolPlan

/-- How many items several pools have. -/
def itemCount (plans : List PoolPlan) : Nat := (plans.flatMap (·.items)).length

/-- How many devices several pools have. -/
def deviceCount (plans : List PoolPlan) : Nat := (plans.flatMap (·.pool.devices)).length

end PoolPlan

end TestFleet
