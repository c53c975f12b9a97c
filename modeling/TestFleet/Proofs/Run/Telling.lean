import TestFleet.Proofs.Run.Numbering
/-!
# What the reporter is told

A move tells the reporter the result that a worker announces, or that of the item which a pool accounts
for (`RunState.telling`). That is passed to the reporter, and the world goes on as the reporter leaves it
(`RunState.world_of_telling`); of nothing else does it matter who the reporter is (`RunState.step_congr`).
So in a whole run the reporter is passed just what was told (`RunState.Trace.passes`).
-/
namespace TestFleet

open RunState (History)

variable {W : Type}

/-! ## What is told -/

namespace Stage

/-- The final result that is to be told. -/
def announced? : Stage → Option TestResult
  | .announcing r _ => some r
  | _ => none

end Stage

namespace Worker

/-- The result in the worker's hands, if it is one that is looked for. -/
def picked (pick : Stage → Option TestResult) (w : Worker W) : List TestResult :=
  match w.phase with
  | .busy _ stage => (pick stage).toList
  | _ => []

variable {w : Worker W} {pick : Stage → Option TestResult}

theorem picked_eq_nil (idle : w.isBusy = false) : w.picked pick = [] := by
  unfold isBusy at idle
  unfold picked
  cases phase : w.phase <;> simp_all

theorem picked_of_busy {item : WorkItem} {stage : Stage} (phase : w.phase = .busy item stage) :
    w.picked pick = (pick stage).toList := by
  simp only [picked, phase]

end Worker

variable [Hosted W]

namespace PoolState

/-- What the reporter is told as a pool or one of its workers moves. -/
def telling (p : PoolState W) (c : Common W) : PoolMove → List TestResult
  | .own =>
    match p.phase with
    | .accounting (item :: _) _ => [(p.settleLeft item (Hosted.now c.world)).1]
    | _ => []
  | .worker j => p.shown (Worker.picked Stage.announced?) (.worker j)
  | .join _ => []

theorem telling_worker {p : PoolState W} {c : Common W} {j : Nat} {w : Worker W}
    (at_j : p.workers[j]? = some w) : p.telling c (.worker j) = w.picked Stage.announced? :=
  shown_worker at_j

end PoolState

namespace RunState

/-- What the reporter is told as something moves in a run. -/
def telling (s : RunState W) (move : RunMove) : List TestResult :=
  (s.pools[move.place]?.toList).flatMap fun p => p.telling s.common move.mover

/-- What the reporter was told of a pool of a run. -/
def History.told (h : History W) (i : Nat) : List TestResult := (h.logged PoolState.telling i).flatten

/-- It is what the moves in that pool told. -/
theorem History.told_eq (h : History W) (i : Nat) :
    h.told i = (h.filter fun (_, move) => move.place == i).flatMap fun (s, move) => s.telling move := by
  induction h with
  | nil => rfl
  | cons first rest ih =>
    obtain ⟨s, move⟩ := first
    unfold told logged at ih ⊢
    by_cases here : move.place = i
    · subst here
      cases at_place : s.pools[move.place]? <;> simp [telling, at_place, ih]
    · simp [here, ih]

end RunState

/-! ## What the reporter does -/

section Reporting

variable {setting : Setting W} {other : Reporter W}

/-- A worker's step depends on the reporter only in how it takes what the worker announces. -/
theorem Worker.step_congr {w : Worker W} {s : Shared W} {pool : PoolContext} {move : WorkerMove}
    (alike : ∀ r ∈ w.picked Stage.announced?, other.tested r s.world = setting.reporter.tested r s.world) :
    w.step { setting with reporter := other } pool move s = w.step setting pool move s := by
  unfold step
  cases move <;> cases phase : w.phase with
  | busy item stage =>
    cases stage with
    | announcing r rescued =>
      have alike := alike r (by simp [picked_of_busy phase, Stage.announced?])
      simp only [stepBusy, alike]
    | _ => rfl
  | _ => rfl

namespace PoolState

variable {p : PoolState W} {c : Common W}

theorem step_congr
    (alike : ∀ r ∈ p.telling c .own, other.tested r c.world = setting.reporter.tested r c.world) :
    p.step { setting with reporter := other } c = p.step setting c := by
  unfold step
  cases phase : p.phase with
  | accounting left unreachable =>
    cases left with
    | nil => rfl
    | cons item left =>
      have alike := alike _ (by simp only [PoolState.telling, phase]; exact List.mem_cons_self)
      simp only [account, alike]
  | _ => rfl

theorem stepWorker_congr {j : Nat} {move : WorkerMove}
    (alike : ∀ r ∈ p.telling c (.worker j), other.tested r c.world = setting.reporter.tested r c.world) :
    p.stepWorker { setting with reporter := other } j move c = p.stepWorker setting j move c := by
  unfold stepWorker
  cases phase : p.phase with
  | working =>
    cases at_j : p.workers[j]? with
    | none => rfl
    | some w =>
      dsimp only
      rw [Worker.step_congr]
      rwa [telling_worker at_j] at alike
  | _ => rfl

end PoolState

namespace RunState

variable {s t : RunState W} {move : RunMove}

/-- **Nothing but what is told depends on the reporter**: one that takes this in the same way leads to the
same state. -/
theorem step_congr
    (alike : ∀ r ∈ s.telling move,
      other.tested r s.common.world = setting.reporter.tested r s.common.world) :
    s.step { setting with reporter := other } move = s.step setting move := by
  have inPool {p : PoolState W} (at_place : s.pools[move.place]? = some p) :
      ∀ r ∈ p.telling s.common move.mover,
        other.tested r s.common.world = setting.reporter.tested r s.common.world := by
    simpa [telling, at_place] using alike
  cases move with
  | join i j => rfl
  | pool i =>
    cases at_i : s.pools[i]? with
    | none => simp [step, at_i]
    | some p => simp [step, at_i, PoolState.step_congr (inPool at_i)]
  | worker i j m =>
    cases at_i : s.pools[i]? with
    | none => simp [step, at_i]
    | some p => simp [step, at_i, PoolState.stepWorker_congr (inPool at_i)]

/-- **What is told is passed to the reporter**, and the world goes on as the reporter leaves it. -/
theorem world_of_telling (tallied : s.Tallied) (h : s.step setting move = some t) {r : TestResult}
    (told : s.telling move = [r]) : t.common.world = (setting.reporter.tested r s.common.world).2 := by
  obtain ⟨p, p', c', at_place, change, rfl⟩ := step_eq_some tallied h
  have told : p.telling s.common move.mover = [r] := by simpa [telling, at_place] using told
  change c'.world = _
  generalize move.mover = m at change told
  cases change with
  | account phase =>
    simp only [PoolState.telling, phase, List.cons.injEq, and_true] at told
    subst told
    simp only [PoolState.account]
    split <;> simp_all
  | @worker j w w' s' phase at_j change =>
    rw [PoolState.telling_worker at_j] at told
    cases change with
    | work phase change =>
      rw [Worker.picked_of_busy phase] at told
      cases change with
      | announced passed =>
        cases told
        exact passed.symm
      | interrupted passed | crashed passed =>
        cases told
        exact (congrArg Prod.snd passed).symm
      | _ => cases told
    | start phase | expire phase | claim phase | heed phase | quit phase | cancel phase | abandon phase
    | leave phase => simp [Worker.picked, phase] at told
    | release phase | violate phase | crash phase =>
      rw [Worker.picked_of_busy phase] at told
      cases told
  | _ phase => simp [PoolState.telling, phase] at told

/-- A move tells one result at most. -/
theorem telling_eq_nil_or_singleton (s : RunState W) (move : RunMove) :
    s.telling move = [] ∨ ∃ r, s.telling move = [r] := by
  unfold telling
  cases at_place : s.pools[move.place]? with
  | none => exact .inl rfl
  | some p =>
    rw [Option.toList_some, List.flatMap_singleton]
    cases move.mover with
    | own =>
      unfold PoolState.telling
      dsimp only
      split
      · exact .inr ⟨_, rfl⟩
      · exact .inl rfl
    | worker j =>
      cases at_j : p.workers[j]? with
      | none => exact .inl (by simp [PoolState.telling, PoolState.shown, at_j])
      | some w =>
        rw [PoolState.telling_worker at_j]
        unfold Worker.picked
        split
        · rename_i stage _
          cases stage.announced? with
          | none => exact .inl rfl
          | some r => exact .inr ⟨r, rfl⟩
        · exact .inl rfl
    | join j => exact .inl rfl

/-- A move passes the reporter what it tells, which is one result at most, and nothing else. -/
structure Passes (setting : Setting W) (s : RunState W) (move : RunMove) : Prop where
  /-- What is told is passed, and the world goes on as the reporter leaves it. -/
  told : s.telling move = [] ∨ ∃ r, s.telling move = [r] ∧ ∃ t, s.step setting move = some t ∧
    t.common.world = (setting.reporter.tested r s.common.world).2
  /-- A reporter that takes this in the same way makes no difference. -/
  only : ∀ other : Reporter W,
    (∀ r ∈ s.telling move, other.tested r s.common.world = setting.reporter.tested r s.common.world) →
      s.step { setting with reporter := other } move = s.step setting move

/-- **In a run the reporter is passed what was told**, in order and nothing else. -/
theorem Trace.passes {world : W} {quota : Nat} {plans : List PoolPlan} {history : History W}
    (trace : Trace setting (ofPlans world quota plans) history s) {u : RunState W}
    (made : (u, move) ∈ history) : u.Passes setting move := by
  obtain ⟨reachable, t, stepped⟩ := trace.made u move made
  refine ⟨?_, fun _ => step_congr⟩
  refine (u.telling_eq_nil_or_singleton move).imp_right fun ⟨r, told⟩ => ⟨r, told, t, stepped, ?_⟩
  exact world_of_telling reachable.tallied stepped told

end RunState

end Reporting

end TestFleet
