import TestFleet.Run.Pool
/-!
# Runs as interleavings

While a run lasts its pools and their workers move one at a time, in any order. `RunState.step` is
one move; `RunState.Reachable` holds of the states that some sequence of moves leads to. `play`
makes moves in turns until every pool is over.
-/
namespace TestFleet

/-- The state of a run between its start and its end. -/
structure RunState (W : Type) where
  common : Common W
  pools : List (PoolState W)
  /-- How pools ended, in the order in which they ended. -/
  outcomes : List (Except RunError PoolResult)

/-- Who moves, and how. -/
inductive RunMove where
  /-- A pool goes on. -/
  | pool (i : Nat)
  /-- A worker of a pool moves. -/
  | worker (i j : Nat) (move : WorkerMove)
  /-- A pool takes note of the end of a worker. -/
  | join (i j : Nat)
  deriving DecidableEq, Repr, Inhabited

namespace RunState

variable {W : Type}

/-- A run before its first move. -/
def ofPlans (world : W) (quota : Nat) (plans : List PoolPlan) : RunState W :=
  ⟨⟨world, .ofTotal quota, false⟩, plans.map .ofPlan, []⟩

/-- The outcomes with that of a pool that has just ended. -/
def noted (p : PoolState W) (outcomes : List (Except RunError PoolResult)) :
    List (Except RunError PoolResult) :=
  match p.phase with | .finished o => outcomes ++ [o] | _ => outcomes

/-- The state after a pool has moved. -/
def put (s : RunState W) (i : Nat) (moved : PoolState W × Common W) : RunState W :=
  ⟨moved.2, s.pools.set i moved.1, noted moved.1 s.outcomes⟩

variable [Hosted W]

/-- One move, if it can be made. -/
def step (setting : Setting W) (move : RunMove) (s : RunState W) : Option (RunState W) :=
  match move with
  | .pool i => do
    let p ← s.pools[i]?
    (p.step setting s.common).map (s.put i)
  | .worker i j move => do
    let p ← s.pools[i]?
    (p.stepWorker setting j move s.common).map (s.put i)
  | .join i j => do
    let p ← s.pools[i]?
    (p.join j s.common).map (s.put i)

/-- The states that a run can come to. -/
inductive Reachable (setting : Setting W) (start : RunState W) : RunState W → Prop where
  | refl : Reachable setting start start
  | step {s t : RunState W} (move : RunMove) :
    Reachable setting start s → s.step setting move = some t → Reachable setting start t

/-- Whether every pool is over. -/
def isOver (s : RunState W) : Bool := s.pools.all (·.isOver)

/-- The moves of a worker in the order in which they are tried. Where a run was called off and an
item is due, both `claim` and `heed` can be made, and this order takes the item. -/
def workerMoves : List WorkerMove := [.proceed, .claim, .heed, .quit]

/-- The moves of a pool and its workers in the order in which they are tried. -/
def movesOf (i : Nat) (p : PoolState W) : List (List RunMove) :=
  [.pool i] :: (List.range p.workers.length).map fun j =>
    workerMoves.map (.worker i j) ++ [.join i j]

/-- Makes the first of several moves that can be made. -/
def tryMoves (setting : Setting W) (s : RunState W) : List RunMove → Option (RunState W)
  | [] => none
  | m :: rest => s.step setting m <|> tryMoves setting s rest

/-- Lets everyone move once, in turn; also says whether anyone did. -/
def sweep (setting : Setting W) (turns : List (List RunMove)) (s : RunState W) :
    RunState W × Bool :=
  turns.foldl (fun (s, moved) moves =>
    match tryMoves setting s moves with
    | some t => (t, true)
    | none => (s, moved)) (s, false)

/-- Everyone's turns. -/
def turns (s : RunState W) : List (List RunMove) :=
  ((List.range s.pools.length).zip s.pools).flatMap fun (i, p) => movesOf i p

/-- Lets everyone move in turns for as long as anyone can, but for so many rounds at most. -/
def rounds (setting : Setting W) : Nat → RunState W → RunState W
  | 0, s => s
  | n + 1, s =>
    let (t, moved) := s.sweep setting s.turns
    if moved then rounds setting n t else t

/-- More rounds than a run can last: a pool, a device and an attempt each make a few moves, and
there is an attempt for every item and every retry. -/
def enoughRounds (s : RunState W) : Nat :=
  let items := (s.pools.flatMap (·.plan.items)).length
  let devices := (s.pools.flatMap (·.workers)).length
  12 * (items + s.common.budget.total + devices + s.pools.length + 1)

/-- Runs every pool to its end. -/
def play (setting : Setting W) (s : RunState W) : RunState W :=
  s.rounds setting s.enoughRounds

end RunState

end TestFleet
