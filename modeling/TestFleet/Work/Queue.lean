import TestFleet.Work.Item
/-!
# The work queue of a pool

Every device of a pool takes work from one queue: the first item in it that the device may run. The
queue counts the items in flight, those claimed and not yet released. An item can be offered only
while one is in flight, so when nothing is in flight and nothing queued is compatible with a
device, nothing for that device can appear any more.
-/
namespace TestFleet

/-- The items that wait, in order, and the number of items in flight. -/
structure WorkQueue where
  items : List WorkItem
  inFlight : Nat
  deriving DecidableEq, Repr, Inhabited

/-- Why an item was not taken into the queue. -/
inductive OfferError where
  /-- Nothing is in flight. -/
  | notInFlight (test : String)
  /-- An item of the same test waits already. -/
  | duplicate (test : String)
  deriving DecidableEq, Repr, Inhabited

/-- The refusal as people read it. -/
def OfferError.message : OfferError → String
  | .notInFlight test => "cannot offer " ++ test ++ ": no work item is in flight"
  | .duplicate test => test ++ " is already queued"

namespace WorkQueue

/-- Whether an item of the same test is in a list. -/
def holds (items : List WorkItem) (item : WorkItem) : Bool :=
  items.any fun i => i.key == item.key

/-- The items whose test no earlier one has, in order. -/
def firsts (items : List WorkItem) : List WorkItem :=
  items.foldl (fun kept item => if holds kept item then kept else kept ++ [item]) []

/-- A queue of items; those that repeat an earlier test are dropped. -/
def ofItems (items : List WorkItem) : WorkQueue := ⟨firsts items, 0⟩

/-- The first element that satisfies a test, and the list without it. -/
def takeFirst? {α : Type} (p : α → Bool) : List α → Option (α × List α)
  | [] => none
  | a :: rest => if p a then some (a, rest) else (takeFirst? p rest).map fun (b, r) => (b, a :: r)

/-- Takes the first item that a device may run; it is then in flight. -/
def claim? (q : WorkQueue) (device : DeviceId) : Option (WorkItem × WorkQueue) :=
  (takeFirst? (·.compatible device) q.items).map fun (item, rest) =>
    (item, ⟨rest, q.inFlight + 1⟩)

/-- Nothing queued is compatible with the device, and nothing is in flight. -/
def exhaustedFor (q : WorkQueue) (device : DeviceId) : Bool :=
  q.inFlight == 0 && !q.items.any (·.compatible device)

/-- Puts an item at the end of the queue. -/
def offer (q : WorkQueue) (item : WorkItem) : Except OfferError WorkQueue :=
  if q.inFlight = 0 then .error (.notInFlight item.test.display)
  else if holds q.items item then .error (.duplicate item.test.display)
  else .ok ⟨q.items ++ [item], q.inFlight⟩

/-- What is said when an item is released and nothing is in flight. -/
def overdrawnText : String := "in-flight counter went negative"

/-- One item is no longer in flight; there must be one. -/
def release? (q : WorkQueue) : Option WorkQueue :=
  match q.inFlight with
  | 0 => none
  | n + 1 => some ⟨q.items, n⟩

/-- Takes all waiting items out. -/
def drain (q : WorkQueue) : List WorkItem × WorkQueue := (q.items, ⟨[], q.inFlight⟩)

end WorkQueue

end TestFleet
