import TestFleet.Proofs.Run.Course
import TestFleet.Proofs.Run.Ending
import TestFleet.Proofs.Run.Numbering
/-!
# Work in a run that was called off

A worker that looks for an item waits for one and for a call at once, and takes the branch that is
ready. Where both are, it takes the one that the runtime looks at first
(`RunState.History.Follows`). So what is claimed once a run was called off is claimed as the runtime
chooses (`claims_once_called_off`): where it always looks for the call first nothing more is taken up,
what is in hand was in the same hands before, and only what was in hand is attempted.
-/
namespace TestFleet

open RunState (History)

variable {W : Type}

/-! ## What is in hand -/

/-- The item in the worker's hands. -/
def Worker.item? (w : Worker W) : Option WorkItem :=
  match w.phase with
  | .busy item _ => some item
  | _ => none

theorem Worker.isSome_item? (w : Worker W) : w.item?.isSome = w.isBusy := by
  unfold isBusy item?
  cases w.phase <;> rfl

theorem Worker.item?_eq_none {w : Worker W} (idle : w.isBusy = false) : w.item? = none := by
  rw [← Option.isSome_eq_false_iff.trans Option.isNone_iff_eq_none, isSome_item?, idle]

namespace PoolState

/-- The item that a worker of the pool has in hand. -/
def held? (p : PoolState W) (j : Nat) : Option WorkItem := p.workers[j]?.bind Worker.item?

/-- The items that workers of the pool are about to attempt. -/
def attempting (p : PoolState W) : List WorkItem := p.workers.flatMap Worker.attempting

/-- The item that is taken up as a pool changes: the worker that moved has it in hand, and had nothing
in hand before. -/
def takenUp? (p p' : PoolState W) (m : PoolMove) : Option WorkItem :=
  m.worker?.bind fun j => if (p.held? j).isSome then none else p'.held? j

end PoolState

namespace RunState

/-- The item that a worker of a pool of the run has in hand. -/
def held? (s : RunState W) (i j : Nat) : Option WorkItem := s.pools[i]?.bind fun p => p.held? j

/-- The items that workers are about to attempt. -/
def attempting (s : RunState W) : List WorkItem := s.pools.flatMap PoolState.attempting

variable [Hosted W]

/-- The item that a move takes up. -/
def takenUp? (setting : Setting W) (s : RunState W) (move : RunMove) : Option WorkItem := do
  let t ← s.step setting move
  let p ← s.pools[move.place]?
  let p' ← t.pools[move.place]?
  p.takenUp? p' move.mover

/-- The items that were taken up in a run. -/
def History.takenUp (setting : Setting W) (h : History W) : List WorkItem :=
  h.flatMap fun (s, move) => (s.takenUp? setting move).toList

end RunState

/-- Whether an item is claimed by the move. -/
def RunMove.isClaim : RunMove → Bool
  | .worker _ _ .claim => true
  | _ => false

/-! ## What the runtime chooses -/

/-- What a worker that looks for an item waits for. -/
inductive Branch where
  /-- That the run is called off. -/
  | call
  /-- That an item comes, or that none can come any more. -/
  | queue
  deriving DecidableEq, Repr

/-- The branch that a move of a worker takes. -/
def WorkerMove.branch? : WorkerMove → Option Branch
  | .heed => some .call
  | .claim | .quit => some .queue
  | .proceed => none

/-- The branch that a move takes. -/
def RunMove.branch? : RunMove → Option Branch
  | .worker _ _ move => move.branch?
  | _ => none

/-- A run goes as the runtime chooses between the branches: for each move there is one that is looked at
first, and a worker takes the other one only where that one is not ready. -/
def RunState.History.Follows [Hosted W] (setting : Setting W) (first : Nat → Branch) (h : History W) :
    Prop :=
  ∀ (k : Nat) u i j move b, h[k]? = some (u, .worker i j move) → move.branch? = some b → b ≠ first k →
    ∀ other : WorkerMove, other.branch? = some (first k) → u.step setting (.worker i j other) = none

/-- Every run goes as some choice of the runtime has it. -/
theorem RunState.History.exists_follows [Hosted W] (setting : Setting W) (h : History W) :
    ∃ first, h.Follows setting first := by
  refine ⟨fun k => (h[k]?.bind fun step => step.2.branch?).getD .call,
    fun k u i j move b at_k branch other => ?_⟩
  refine absurd ?_ other
  simp only [at_k, Option.bind_some, RunMove.branch?, branch, Option.getD_some]

section Steps

variable [Hosted W] {setting : Setting W}

/-! ## Moves that claim nothing -/

namespace Worker

variable {pool : PoolContext} {w w' : Worker W} {s s' : Shared W}

theorem step_heed (idle : w.phase = .idle) (off : s.cancelled = true) :
    w.step setting pool .heed s = some (w.at_ .leaving, s) := by
  unfold step
  simp only [idle]
  exact if_pos off

/-- Only a worker that looks for an item makes a claim. -/
theorem idle_of_step_claim (h : w.step setting pool .claim s = some (w', s')) : w.phase = .idle := by
  unfold step at h
  cases phase : w.phase <;> simp only [phase] at h <;> first | rfl | cases h

/-- Only by a claim does a worker come to hold an item. -/
theorem isBusy_of_step {move : WorkerMove} (h : w.step setting pool move s = some (w', s'))
    (other : move ≠ .claim) (idle : w.isBusy = false) : w'.isBusy = false := by
  unfold step at h
  dsimp only at h
  split at h
  · exact absurd rfl other
  · cases (Option.ite_none_right_eq_some.1 h).2
    rfl
  · cases (Option.ite_none_right_eq_some.1 h).2
    rfl
  · cases h
    exact (excused_start ..).1.isBusy
  · rename_i phase
    simp [isBusy, phase] at idle
  · cases h
    rfl
  · cases h
    exact (excused_abandon ..).1.isBusy
  · cases h
    exact (idle_leave ..).1
  · cases h

/-- A worker is about to attempt what it takes up, and nothing else. -/
theorem Effect.attempting_eq (h : Effect setting pool w s w' s') :
    w'.attempting = (if w.isBusy then Option.none else w'.item?).toList := by
  cases h with
  | none idle idle' | drop _ _ idle' =>
    rw [attempting_eq_nil idle', item?_eq_none idle', ite_self]
    rfl
  | take idle phase' =>
    rw [idle]
    simp only [Worker.attempting, Worker.item?, phase']
    rfl
  | work phase phase' change =>
    simp only [Worker.attempting, isBusy, phase, phase']
    cases change <;> rfl

/-- A worker that has something in hand goes on with the same, or with nothing. -/
theorem Effect.item?_eq (h : Effect setting pool w s w' s') (busy : w.isBusy = true)
    {item : WorkItem} (held : w'.item? = some item) : w.item? = some item := by
  cases h with
  | none _ idle' | drop _ _ idle' =>
    rw [item?_eq_none idle'] at held
    cases held
  | take idle =>
    rw [idle] at busy
    cases busy
  | work phase phase' =>
    simp only [Worker.item?, phase, phase'] at held ⊢
    exact held

end Worker

namespace PoolState

variable {p p' : PoolState W} {c c' : Common W} {m : PoolMove}

omit [Hosted W] in
theorem held?_set {j : Nat} {w w' : Worker W} (workers : p'.workers = p.workers.set j w')
    (at_j : p.workers[j]? = some w) : p.held? j = w.item? ∧ p'.held? j = w'.item? := by
  have after : (p.workers.set j w')[j]? = some w' :=
    List.getElem?_set_self (List.getElem?_eq_some_iff.1 at_j).1
  simp only [held?, workers, at_j, after, Option.bind_some, and_self]

omit [Hosted W] in
/-- What is taken up as one worker changes. -/
theorem takenUp?_of_set {j : Nat} {w w' : Worker W} (workers : p'.workers = p.workers.set j w')
    (at_j : p.workers[j]? = some w) (moved : m.worker? = some j) :
    p.takenUp? p' m = if w.isBusy then none else w'.item? := by
  obtain ⟨before, after⟩ := held?_set workers at_j
  rw [takenUp?, moved, Option.bind_some, before, after, Worker.isSome_item?]

/-- What was about to be attempted, or is taken up, is attempted now or about to be. -/
theorem Change.attempting (h : Change setting p c m p' c') :
    (p.attempting ++ (p.takenUp? p' m).toList).Perm (p.shown Worker.attempting m ++ p'.attempting) := by
  unfold PoolState.attempting
  rcases h.own_or_shifts with rfl | ⟨j, w, w', moved, shifts⟩
  · rw [h.goesOn.workers]
    exact .of_eq (List.append_nil _)
  · obtain ⟨others, before, after⟩ := shifts.exists_others
    have before := before.flatMap_right Worker.attempting
    have after := after.flatMap_right Worker.attempting
    rw [List.flatMap_cons] at before after
    rw [h.shown Worker.attempting_eq_nil moved shifts.at_j, takenUp?_of_set shifts.workers shifts.at_j moved,
      ← shifts.effect.attempting_eq]
    refine (before.append_right _).trans ?_
    rw [List.append_assoc]
    exact (List.perm_append_comm.trans after.symm).append_left _

/-- Where nothing is taken up, what is in a worker's hands was there before. -/
theorem Change.held (h : Change setting p c m p' c') (untaken : p.takenUp? p' m = none) {j : Nat}
    {item : WorkItem} (held : p'.held? j = some item) : p.held? j = some item := by
  rcases h.own_or_shifts with rfl | ⟨k, w, w', moved, shifts⟩
  · rwa [held?, ← h.goesOn.workers]
  · rw [takenUp?_of_set shifts.workers shifts.at_j moved] at untaken
    by_cases here : k = j
    · subst here
      obtain ⟨before, after⟩ := held?_set shifts.workers shifts.at_j
      rw [after] at held
      rw [before]
      refine shifts.effect.item?_eq ?_ held
      by_contra idle
      rw [if_neg idle, held] at untaken
      cases untaken
    · rw [held?] at held ⊢
      rwa [shifts.workers, List.getElem?_set_ne here] at held

theorem Change.takenUp?_join {j : Nat} (h : Change setting p c (.join j) p' c') :
    p.takenUp? p' (.join j) = none := by
  cases h with
  | join _ at_j | joinFailed _ at_j =>
    rw [takenUp?_of_set rfl at_j rfl]
    exact ite_self _

/-- Only by a claim is an item taken up. -/
theorem takenUp?_of_stepWorker {j : Nat} {move : WorkerMove}
    (h : p.stepWorker setting j move c = some (p', c')) (other : move ≠ .claim) :
    p.takenUp? p' (.worker j) = none := by
  unfold stepWorker at h
  split at h
  · rename_i w phase at_j
    obtain ⟨⟨w', s'⟩, worked, pair⟩ := Option.map_eq_some_iff.1 h
    cases pair
    rw [takenUp?_of_set rfl at_j rfl]
    cases idle : w.isBusy with
    | true => rfl
    | false => exact Worker.item?_eq_none (Worker.isBusy_of_step worked other idle)
  · cases h

end PoolState

namespace RunState

variable {s t : RunState W} {h : History W}

/-- What a move takes up is taken up in the pool that it changes. -/
theorem takenUp?_of_step {move : RunMove} {p p' : PoolState W} {c' : Common W}
    (stepped : s.step setting move = some (s.put move.place (p', c')))
    (at_place : s.pools[move.place]? = some p) :
    s.takenUp? setting move = p.takenUp? p' move.mover := by
  have after : (s.put move.place (p', c')).pools[move.place]? = some p' :=
    List.getElem?_set_self (List.getElem?_eq_some_iff.1 at_place).1
  simp [takenUp?, stepped, at_place, after]

/-- Only a claim takes an item up. -/
theorem takenUp?_eq_none {move : RunMove} (other : move.isClaim = false) :
    s.takenUp? setting move = none := by
  cases stepped : s.step setting move with
  | none =>
    rw [takenUp?, stepped]
    rfl
  | some t =>
    cases move with
    | pool i =>
      obtain ⟨p, at_i, change⟩ := Option.bind_eq_some_iff.1 stepped
      obtain ⟨⟨p', c'⟩, -, rfl⟩ := Option.map_eq_some_iff.1 change
      rw [takenUp?_of_step stepped at_i]
      rfl
    | join i j =>
      obtain ⟨p, at_i, change⟩ := Option.bind_eq_some_iff.1 stepped
      obtain ⟨⟨p', c'⟩, joined, rfl⟩ := Option.map_eq_some_iff.1 change
      have change : PoolState.Change setting p s.common (.join j) p' c' :=
        PoolState.change_of_join joined
      rw [takenUp?_of_step stepped at_i]
      exact change.takenUp?_join
    | worker i j move =>
      obtain ⟨p, at_i, change⟩ := Option.bind_eq_some_iff.1 stepped
      obtain ⟨⟨p', c'⟩, moved, rfl⟩ := Option.map_eq_some_iff.1 change
      rw [takenUp?_of_step stepped at_i]
      refine PoolState.takenUp?_of_stepWorker moved ?_
      rintro rfl
      cases other

/-- In a run that was called off a worker that claims an item can heed the call. -/
theorem step_heed_of_claim {i j : Nat} (stepped : s.step setting (.worker i j .claim) = some t)
    (off : s.common.cancelled = true) : s.step setting (.worker i j .heed) ≠ none := by
  obtain ⟨p, at_i, stepped⟩ := Option.bind_eq_some_iff.1 stepped
  obtain ⟨_, moved, -⟩ := Option.map_eq_some_iff.1 stepped
  unfold PoolState.stepWorker at moved
  split at moved
  · rename_i w phase at_j
    obtain ⟨⟨w', s'⟩, claimed, -⟩ := Option.map_eq_some_iff.1 moved
    refine step_worker_ne_none at_i phase at_j ?_
    exact ne_of_eq_of_ne (Worker.step_heed (Worker.idle_of_step_claim claimed) off) nofun
  · cases moved

/-- Where the call can be heeded an item is claimed only if the runtime looks for an item first. -/
theorem History.Follows.first_of_claim {first : Nat → Branch} {k i j : Nat}
    (follows : h.Follows setting first) (at_k : h[k]? = some (s, .worker i j .claim))
    (heeds : s.step setting (.worker i j .heed) ≠ none) : first k = .queue := by
  cases looked : first k with
  | queue => rfl
  | call =>
    refine absurd ?_ heeds
    exact follows k s i j .claim .queue at_k rfl (by rw [looked]; nofun) .heed (by rw [looked]; rfl)

/-- Where nothing is claimed nothing is taken up. -/
theorem History.takenUp_eq_nil (unclaimed : ∀ u i j, (u, .worker i j .claim) ∉ h) :
    h.takenUp setting = [] := by
  refine List.flatMap_eq_nil_iff.2 fun (u, move) known => ?_
  dsimp only
  rw [takenUp?_eq_none, Option.toList_none]
  unfold RunMove.isClaim
  split
  · exact absurd known (unclaimed u _ _)
  · rfl

/-! ## Runs -/

/-- A run that was called off stays so: whatever it goes through, it has been called off. -/
theorem Trace.cancelled (further : Trace setting s h t) (tallied : s.Tallied)
    (off : s.common.cancelled = true) :
    t.common.cancelled = true ∧ ∀ u move, (u, move) ∈ h → u.common.cancelled = true := by
  induction further with
  | refl => exact ⟨off, nofun⟩
  | step move earlier stepped ih =>
    obtain ⟨p, p', c', -, change, rfl⟩ :=
      step_eq_some (earlier.reachable.tallied_of_start tallied) stepped
    refine ⟨change.cancelled ih.1, fun u other known => ?_⟩
    rcases List.mem_append.1 known with earlier | now
    · exact ih.2 u other earlier
    · cases List.mem_singleton.1 now
      exact ih.1

/-- **What is attempted was about to be attempted, or has been taken up since.** -/
theorem Trace.perm_attempting (further : Trace setting s h t) (tallied : s.Tallied) :
    (s.attempting ++ h.takenUp setting).Perm (h.attempts ++ t.attempting) := by
  induction further with
  | refl => exact .of_eq (List.append_nil _)
  | @step h u v move earlier stepped ih =>
    obtain ⟨p, p', c', at_place, change, rfl⟩ :=
      step_eq_some (earlier.reachable.tallied_of_start tallied) stepped
    have taken := takenUp?_of_step stepped at_place
    obtain ⟨others, before, after⟩ := exists_others_of_set at_place (b := p')
    have before := before.flatMap_right PoolState.attempting
    have after := after.flatMap_right PoolState.attempting
    rw [List.flatMap_cons] at before after
    have here := change.attempting
    rw [← taken] at here
    have now : History.takenUp setting (h ++ [(u, move)]) =
        h.takenUp setting ++ (u.takenUp? setting move).toList := by
      simp [History.takenUp]
    rw [now, History.attempts, History.shown_append at_place]
    refine List.perm_iff_count.2 fun item => ?_
    have ih := ih.count_eq item
    have before := before.count_eq item
    have after := after.count_eq item
    have here := here.count_eq item
    simp only [RunState.attempting, put, History.attempts, List.count_append] at ih before after here ⊢
    omega

/-- Where nothing is taken up, what is in hand was in the same hands before. -/
theorem Trace.held (further : Trace setting s h t) (tallied : s.Tallied)
    (untaken : h.takenUp setting = []) {i j : Nat} {item : WorkItem}
    (held : t.held? i j = some item) : s.held? i j = some item := by
  induction further with
  | refl => exact held
  | @step h u v move earlier stepped ih =>
    obtain ⟨p, p', c', at_place, change, rfl⟩ :=
      step_eq_some (earlier.reachable.tallied_of_start tallied) stepped
    have taken := takenUp?_of_step stepped at_place
    obtain ⟨before, now⟩ := List.append_eq_nil_iff.1 ((List.flatMap_append ..).symm.trans untaken)
    have now : p.takenUp? p' move.mover = none := by simpa [taken] using now
    refine ih before ?_
    unfold held? at held ⊢
    by_cases here : move.place = i
    · subst here
      have inside := (List.getElem?_eq_some_iff.1 at_place).1
      rw [put, List.getElem?_set_self inside, Option.bind_some] at held
      rw [at_place, Option.bind_some]
      exact change.held now held
    · rwa [put, List.getElem?_set_ne here] at held

end RunState

/-- **What is claimed once a run was called off is claimed as the runtime chooses.** What is attempted
from then on was about to be attempted, or has been taken up since. And every run goes as some choice
of the runtime has it: whatever the choice, a worker makes a claim only where the runtime looked for an
item first and the call could have been heeded. If the runtime always looks for the call first, nothing
is claimed any more: what is in a worker's hands was there when the run was called off, and the
attempts that are made are those that were about to be made then. -/
theorem claims_once_called_off {world : W} {quota : Nat} {plans : List PoolPlan} {s t : RunState W}
    {h : History W} (reachable : RunState.Reachable setting (.ofPlans world quota plans) s)
    (further : RunState.Trace setting s h t) (off : s.common.cancelled = true) :
    (s.attempting ++ h.takenUp setting).Perm (h.attempts ++ t.attempting) ∧
    (∃ first, h.Follows setting first) ∧
    ∀ first, h.Follows setting first →
      (∀ (k : Nat) u i j, h[k]? = some (u, .worker i j .claim) →
        first k = .queue ∧ u.step setting (.worker i j .heed) ≠ none) ∧
      ((∀ k < h.length, first k = .call) →
        (∀ u i j, (u, .worker i j .claim) ∉ h) ∧ h.takenUp setting = [] ∧
        (∀ i j item, t.held? i j = some item → s.held? i j = some item) ∧
        s.attempting.Perm (h.attempts ++ t.attempting)) := by
  have attempts := further.perm_attempting reachable.tallied
  refine ⟨attempts, h.exists_follows setting, fun first follows => ?_⟩
  have chosen : ∀ (k : Nat) u i j, h[k]? = some (u, .worker i j .claim) →
      first k = .queue ∧ u.step setting (.worker i j .heed) ≠ none := by
    intro k u i j at_k
    have known := List.mem_of_getElem? at_k
    obtain ⟨-, v, stepped⟩ := further.made u _ known
    have called := (further.cancelled reachable.tallied off).2 u _ known
    have heeds := RunState.step_heed_of_claim stepped called
    exact ⟨follows.first_of_claim at_k heeds, heeds⟩
  refine ⟨chosen, fun biased => ?_⟩
  have unclaimed : ∀ u i j, (u, .worker i j .claim) ∉ h := by
    intro u i j known
    obtain ⟨k, at_k⟩ := List.getElem?_of_mem known
    have queue := (chosen k u i j at_k).1
    rw [biased k (List.getElem?_eq_some_iff.1 at_k).1] at queue
    cases queue
  have untaken : h.takenUp setting = [] := History.takenUp_eq_nil unclaimed
  refine ⟨unclaimed, untaken, fun i j item => further.held reachable.tallied untaken, ?_⟩
  rwa [untaken, List.append_nil] at attempts

end Steps

/-! ## A call that is heeded, and one that is not -/

namespace Sample

/-- Refuses the first of the two pools. -/
def refusingFirst : Rule Host PoolContext PoolResult where
  name := "refusing first"
  before ctx := if ctx.pool.id.name = "first" then .fail (.ofMessage "refused") else .give ()
  after _ r := .give r

/-- Before the first move, with one retry. -/
def twoPools : RunState Host := .ofPlans default 1 pair

/-- The second pool is entered, and its worker looks for an item. -/
def searching : List RunMove := [.pool 1, .worker 1 0 .proceed]

/-- The first pool is refused, and calls the run off. -/
def refusing : List RunMove := .replicate 2 (.pool 0)

/-- The worker of the second pool brings what it holds to an end, up to its next attempt. -/
def retrying : List RunMove := .replicate 5 (.worker 1 0 .proceed)

end Sample

open Sample in
/-- The worker of the second pool has an item in hand when the run is called off, and the runtime looks
for the call first. It attempts the item, and offers the next attempt; then it heeds the call. -/
theorem heeded_in_pair : ∃ s t h,
    RunState.Reachable (ruledBy refusingFirst) twoPools s ∧
      RunState.Trace (ruledBy refusingFirst) s h t ∧ s.common.cancelled = true ∧
      h.Follows (ruledBy refusingFirst) (fun _ => .call) ∧ s.held? 1 0 = some item ∧
      (t.pools.any fun p => p.queue.items.length == 1) = true ∧
      (∀ u i j, (u, .worker i j .claim) ∉ h) ∧ h.attempts ++ t.attempting = [item] := by
  obtain ⟨_, s, before, passes⟩ := RunState.exists_trace_of_follow (ruledBy refusingFirst) twoPools
    (searching ++ [.worker 1 0 .claim] ++ refusing)
    (fun run => run.2.common.cancelled && run.2.held? 1 0 == some item &&
      run.2.attempting == [item] &&
      (run.2.follow (ruledBy refusingFirst) (retrying ++ [.worker 1 0 .heed])).any fun run =>
        run.1.all (fun u => u.2.branch? != some .queue) &&
          run.2.pools.any fun p => p.queue.items.length == 1)
    (by decide +kernel)
  simp only [Bool.and_eq_true, beq_iff_eq] at passes
  obtain ⟨⟨⟨off, held⟩, attempting⟩, later⟩ := passes
  obtain ⟨h, t, after, passes⟩ := RunState.exists_trace_of_follow _ s _ _ later
  obtain ⟨heeds, queued⟩ := Bool.and_eq_true_iff.1 passes
  -- No move of the run takes the other branch.
  have follows : h.Follows (ruledBy refusingFirst) fun _ => .call := by
    intro k u i j move b at_k branch other
    have heeds := List.all_eq_true.1 heeds _ (List.mem_of_getElem? at_k)
    cases b with
    | call => exact absurd rfl other
    | queue => simp [RunMove.branch?, branch] at heeds
  obtain ⟨none, -, -, perm⟩ :=
    ((claims_once_called_off before.reachable after off).2.2 _ follows).2 fun _ _ => rfl
  rw [attempting] at perm
  exact ⟨s, t, h, before.reachable, after, off, follows, held, queued, none,
    (List.singleton_perm.1 perm).symm⟩

open Sample in
/-- The worker of the second pool has nothing in hand when the run is called off. It claims the item
of its pool all the same, and attempts it. -/
theorem claimed_though_called_off : ∃ s t h u,
    RunState.Reachable (ruledBy refusingFirst) twoPools s ∧
      RunState.Trace (ruledBy refusingFirst) s h t ∧ s.common.cancelled = true ∧
      s.held? 1 0 = none ∧ s.attempting = [] ∧ (u, .worker 1 0 .claim) ∈ h ∧ h.attempts ≠ [] := by
  obtain ⟨_, s, before, passes⟩ := RunState.exists_trace_of_follow (ruledBy refusingFirst) twoPools
    (searching ++ refusing)
    (fun run => run.2.common.cancelled && run.2.held? 1 0 == none && run.2.attempting == [] &&
      (run.2.follow (ruledBy refusingFirst) [.worker 1 0 .claim, .worker 1 0 .proceed]).any fun run =>
        run.1.any (fun u => u.2 == .worker 1 0 .claim) && run.1.attempts != [])
    (by decide +kernel)
  simp only [Bool.and_eq_true, beq_iff_eq] at passes
  obtain ⟨⟨⟨off, idle⟩, nothing⟩, later⟩ := passes
  obtain ⟨h, t, after, passes⟩ := RunState.exists_trace_of_follow _ s _ _ later
  simp only [Bool.and_eq_true, List.any_eq_true, beq_iff_eq, bne_iff_ne] at passes
  obtain ⟨⟨⟨u, move⟩, known, claim⟩, attempts⟩ := passes
  obtain rfl : move = .worker 1 0 .claim := claim
  exact ⟨s, t, h, u, before.reachable, after, off, idle, nothing, known, attempts⟩

end TestFleet
