import TestFleet.Work.Queue
/-!
# Tasks handed out by a queue

Whoever takes an item from a queue holds a task until the task is released. Tasks are numbered in
the order they were handed out; the queue's count of items in flight is the number of tasks held.
-/
namespace TestFleet

/-- A queue and the tasks it has handed out. -/
structure Board where
  queue : WorkQueue
  /-- The tasks that are held, with their numbers. -/
  held : List (Nat × WorkItem)
  /-- How many tasks were handed out so far. -/
  count : Nat
  deriving Repr, Inhabited

namespace Board

/-- Nothing handed out. -/
def ofItems (items : List WorkItem) : Board := ⟨WorkQueue.ofItems items, [], 0⟩

/-- The item of a task that is held. -/
def task? (b : Board) (number : Nat) : Option WorkItem := b.held.lookup number

/-- Hands out an item that was claimed from the queue. -/
def handOut (b : Board) (item : WorkItem) : Nat × Board :=
  (b.count, { b with held := b.held ++ [(b.count, item)], count := b.count + 1 })

/-- Hands out the first item that a device may run. -/
def poll? (b : Board) (device : DeviceId) : Option (Nat × WorkItem × Board) :=
  (b.queue.claim? device).map fun (item, queue) =>
    let (number, after) := { b with queue }.handOut item
    (number, item, after)

/-- Offers an item to the queue. -/
def offer (b : Board) (item : WorkItem) : Except OfferError Board :=
  (b.queue.offer item).map fun queue => { b with queue }

/-- Releases a task, if it is held and the queue has an item in flight. -/
def release? (b : Board) (number : Nat) : Option Board :=
  (b.task? number).bind fun _ => b.queue.release?.map fun queue =>
    { b with queue, held := b.held.filter (·.1 != number) }

/-- Releases every task that is held. -/
def releaseAll (b : Board) : Board :=
  b.held.foldl (fun b (number, _) => (b.release? number).getD b) b

/-- Takes all waiting items out. -/
def drain (b : Board) : List WorkItem × Board :=
  let (items, queue) := b.queue.drain
  (items, { b with queue })

end Board

end TestFleet
