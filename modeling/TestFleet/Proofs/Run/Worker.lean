import TestFleet.Proofs.Rule.Pipeline
import TestFleet.Proofs.Work.Queue
import TestFleet.Proofs.Work.Retry
import TestFleet.Run.Worker
/-!
# The steps of a worker

`StageChange` lists what a worker can do with an item that it holds, and `Worker.Change` all that a
worker can do; `Worker.change_of_step` says that there is nothing else, as long as the item of a busy
worker counts as in flight: it is then never released in vain. Facts about workers are
proved by cases on these lists. For facts about items, `Worker.Effect` tells the steps apart only by
what becomes of an item. What a worker has in hand is always of the item that it holds
(`Worker.Sound`).
-/
namespace TestFleet

variable {W : Type}

/-! ## Beginning and end -/

namespace Worker

theorem isGone_iff {w : Worker W} : w.isGone = true ↔ w.phase = .gone := by
  unfold isGone
  cases w.phase <;> simp

theorem isBusy_of_isGone {w : Worker W} (gone : w.isGone = true) : w.isBusy = false := by
  simp only [isBusy, isGone_iff.1 gone]

/-- Where a worker ends up that begins or gives up: if it stops, or is to stop, it is retired, its
summary says so, or an error ended it. -/
def Excused (w : Worker W) : Prop :=
  match w.phase with
  | .idle => True
  | .leaving => w.retired.isSome = true
  | .stopped (.ok summary) => summary.device = w.device.id ∧ summary.retired.isSome = true
  | .stopped (.error _) => True
  | _ => False

theorem Excused.isBusy {w : Worker W} (h : w.Excused) : w.isBusy = false := by
  unfold Excused at h
  unfold Worker.isBusy
  cases phase : w.phase <;> simp_all

theorem excused_start (setting : Setting W) (ctx : DeviceContext) (w : Worker W) (world : W) :
    (w.start setting ctx world).1.Excused ∧ (w.start setting ctx world).1.device = w.device := by
  unfold start
  split
  · exact ⟨⟨rfl, rfl⟩, rfl⟩
  · exact ⟨⟨rfl, rfl⟩, rfl⟩
  · dsimp only
    split
    · split
      · exact ⟨trivial, rfl⟩
      · exact ⟨rfl, rfl⟩
    · exact ⟨trivial, rfl⟩
    · exact ⟨⟨rfl, rfl⟩, rfl⟩

theorem retired_start {setting : Setting W} {ctx : DeviceContext} {w : Worker W} {world : W}
    (retired : w.retired.isSome = true) : (w.start setting ctx world).1.retired.isSome = true := by
  unfold start
  split
  · rfl
  · exact retired
  · dsimp only
    split
    · split
      · exact retired
      · rfl
    · exact retired
    · exact retired

theorem excused_abandon (ctx : DeviceContext) (e : PipelineError) (w : Worker W) (world : W) :
    (w.abandon ctx e world).1.Excused ∧ (w.abandon ctx e world).1.device = w.device ∧
      (w.abandon ctx e world).1.retired = w.retired := by
  unfold abandon
  split
  · exact ⟨⟨rfl, rfl⟩, rfl, rfl⟩
  · exact ⟨trivial, rfl, rfl⟩

theorem idle_leave (ctx : DeviceContext) (w : Worker W) (world : W) :
    (w.leave ctx world).1.isBusy = false ∧ (w.leave ctx world).1.device = w.device ∧
      (w.leave ctx world).1.retired = w.retired := by
  unfold leave
  split <;> exact ⟨rfl, rfl, rfl⟩

end Worker

/-! ## Steps -/

variable [Hosted W]

/-- The steps of a worker that goes on holding its item: from one stage to another, with what
becomes of what the workers share. -/
inductive StageChange (setting : Setting W) (ctx : AttemptContext) (s : Shared W) :
    Stage → Stage → Shared W → Prop where
  | attempted {r : TestResult} {world : W} (run : ctx.run setting s.world = (.done r, world)) :
    StageChange setting ctx s .attempting (.deciding r) { s with world }
  | violated {e : PipelineError} {world : W}
    (run : ctx.run setting s.world = (.failed e, world)) :
    StageChange setting ctx s .attempting (.releasing (some e)) { s with world }
  | rescued {m : String} {world : W} (run : ctx.run setting s.world = (.panicked m, world)) :
    StageChange setting ctx s .attempting
      (.announcing (Worker.rescue ctx m (Hosted.now world)) true) { s with world }
  | retried {r : TestResult} {next : WorkItem} {budget : RetryBudget}
    (retry : ctx.item.retry? setting.retry r ctx.pool s.budget = some (next, budget)) :
    StageChange setting ctx s (.deciding r) (.offering next r) { s with budget }
  | settled {r : TestResult} (final : ctx.item.retry? setting.retry r ctx.pool s.budget = none) :
    StageChange setting ctx s (.deciding r) (.announcing r false) s
  | offered {next : WorkItem} {r : TestResult} {queue : WorkQueue}
    (accepted : s.queue.offer next = .ok queue) :
    StageChange setting ctx s (.offering next r) (.stashing r) { s with queue }
  | refused {next : WorkItem} {r : TestResult} {e : OfferError}
    (rejected : s.queue.offer next = .error e) :
    StageChange setting ctx s (.offering next r) (.announcing r false) s
  | stashed {r : TestResult} :
    StageChange setting ctx s (.stashing r) (.releasing none)
      { s with collector := s.collector.pushRetried r }
  | announced {r : TestResult} {rescued : Bool} {world : W}
    (told : (setting.reporter.tested r s.world).2 = world)
    (quiet : ∀ m, (setting.reporter.tested r s.world).1 ≠ .panicked m) :
    StageChange setting ctx s (.announcing r rescued) (.keeping r) { s with world }
  | interrupted {r : TestResult} {m : String} {world : W}
    (told : setting.reporter.tested r s.world = (.panicked m, world)) :
    StageChange setting ctx s (.announcing r false)
      (.announcing (Worker.rescue ctx m (Hosted.now world)) true) { s with world }
  | crashed {r : TestResult} {m : String} {world : W}
    (told : setting.reporter.tested r s.world = (.panicked m, world)) :
    StageChange setting ctx s (.announcing r true) (.crashing m) { s with world }
  | kept {r : TestResult} :
    StageChange setting ctx s (.keeping r) (.releasing none)
      { s with collector := s.collector.push r }

namespace Worker

/-- The steps of a worker, with what becomes of it and of what the workers share. -/
inductive Change (setting : Setting W) (pool : PoolContext) (w : Worker W) (s : Shared W) :
    Worker W → Shared W → Prop where
  | start (phase : w.phase = .starting) :
    Change setting pool w s (w.start setting ⟨pool, w.device⟩ s.world).1
      { s with world := (w.start setting ⟨pool, w.device⟩ s.world).2 }
  | expire (phase : w.phase = .idle)
    (beyond : pool.run.config.run.pollTimeout.isBeyondClock = true) :
    Change setting pool w s (w.at_ (.stopped (.ok (w.crashed Time.Span.beyondClockText)))) s
  | claim {item : WorkItem} {queue : WorkQueue} (phase : w.phase = .idle)
    (claimed : s.queue.claim? w.device.id = some (item, queue))
    (within : pool.run.config.run.pollTimeout.isBeyondClock = false) :
    Change setting pool w s (w.at_ (.busy item .attempting)) { s with queue }
  | heed (phase : w.phase = .idle) (cancelled : s.cancelled = true) :
    Change setting pool w s (w.at_ .leaving) s
  | quit (phase : w.phase = .idle) (exhausted : s.queue.exhaustedFor w.device.id = true) :
    Change setting pool w s (w.at_ .leaving) s
  | work {item : WorkItem} {stage stage' : Stage} {s' : Shared W}
    (phase : w.phase = .busy item stage)
    (change : StageChange setting ⟨⟨pool, w.device⟩, item⟩ s stage stage' s') :
    Change setting pool w s (w.at_ (.busy item stage')) s'
  | release {item : WorkItem} {queue : WorkQueue} (phase : w.phase = .busy item (.releasing none))
    (released : s.queue.release? = some queue) :
    Change setting pool w s ({ w with executed := w.executed + 1 }.at_ .idle) { s with queue }
  | violate {item : WorkItem} {e : PipelineError} {queue : WorkQueue}
    (phase : w.phase = .busy item (.releasing (some e)))
    (released : s.queue.release? = some queue) :
    Change setting pool w s ({ w with executed := w.executed + 1 }.at_ (.cancelling e))
      { s with queue }
  | crash {item : WorkItem} {m : String} {queue : WorkQueue}
    (phase : w.phase = .busy item (.crashing m)) (released : s.queue.release? = some queue) :
    Change setting pool w s (w.at_ (.stopped (.ok (w.crashed m)))) { s with queue }
  | cancel {e : PipelineError} (phase : w.phase = .cancelling e) :
    Change setting pool w s (w.at_ (.abandoning e)) { s with cancelled := true }
  | abandon {e : PipelineError} (phase : w.phase = .abandoning e) :
    Change setting pool w s (w.abandon ⟨pool, w.device⟩ e s.world).1
      { s with world := (w.abandon ⟨pool, w.device⟩ e s.world).2 }
  | leave (phase : w.phase = .leaving) :
    Change setting pool w s (w.leave ⟨pool, w.device⟩ s.world).1
      { s with world := (w.leave ⟨pool, w.device⟩ s.world).2 }

variable {setting : Setting W} {pool : PoolContext} {w w' : Worker W} {s s' : Shared W}

omit [Hosted W] in
/-- Where something is in flight an item can be put down. -/
theorem exists_putDown {next : Worker W} (held : s.queue.inFlight ≠ 0)
    (h : w.putDown next s = (w', s')) :
    ∃ queue, s.queue.release? = some queue ∧ w' = next ∧ s' = { s with queue } := by
  unfold putDown at h
  split at h
  · cases h
    exact ⟨_, ‹_›, rfl, rfl⟩
  · exact absurd (WorkQueue.release?_eq_none_iff.1 ‹_›) held

/-- A step with an item is one of those listed. -/
theorem change_of_stepBusy {item : WorkItem} {stage : Stage} (phase : w.phase = .busy item stage)
    (held : s.queue.inFlight ≠ 0)
    (h : stepBusy setting ⟨⟨pool, w.device⟩, item⟩ stage w s = (w', s')) :
    Change setting pool w s w' s' := by
  unfold stepBusy at h
  dsimp only at h
  cases stage with
  | attempting =>
    simp only at h
    split at h
    · cases h
      exact .work phase (.attempted ‹_›)
    · cases h
      exact .work phase (.violated ‹_›)
    · cases h
      exact .work phase (.rescued ‹_›)
  | deciding r =>
    simp only at h
    split at h
    · cases h
      exact .work phase (.retried ‹_›)
    · cases h
      exact .work phase (.settled ‹_›)
  | offering next r =>
    simp only at h
    split at h
    · cases h
      exact .work phase (.offered ‹_›)
    · cases h
      exact .work phase (.refused ‹_›)
  | stashing r =>
    cases h
    exact .work phase .stashed
  | announcing r rescued =>
    simp only at h
    split at h
    · rename_i m world told
      cases rescued with
      | false =>
        cases h
        exact .work phase (.interrupted told)
      | true =>
        cases h
        exact .work phase (.crashed told)
    · rename_i world quiet told
      cases h
      refine .work phase (.announced (congrArg Prod.snd told) fun m panicked => ?_)
      exact quiet m ((congrArg Prod.fst told).symm.trans panicked)
  | keeping r =>
    cases h
    exact .work phase .kept
  | releasing fatal =>
    obtain ⟨queue, released, rfl, rfl⟩ := exists_putDown held h
    cases fatal with
    | none => exact .release phase released
    | some e => exact .violate phase released
  | crashing m =>
    obtain ⟨queue, released, rfl, rfl⟩ := exists_putDown held h
    exact .crash phase released

/-- A step of a worker is one of those listed, if something is in flight while it is busy. -/
theorem change_of_step {move : WorkerMove} (held : w.isBusy = true → s.queue.inFlight ≠ 0)
    (h : w.step setting pool move s = some (w', s')) :
    Change setting pool w s w' s' := by
  unfold step at h
  dsimp only at h
  split at h
  · rename_i phase
    unfold poll at h
    split at h
    · cases h
      exact .expire phase ‹_›
    · rename_i within
      obtain ⟨⟨item, queue⟩, claimed, pair⟩ := Option.map_eq_some_iff.1 h
      cases pair
      exact .claim phase claimed (Bool.eq_false_iff.2 within)
  · rename_i phase
    obtain ⟨cancelled, pair⟩ := Option.ite_none_right_eq_some.1 h
    cases pair
    exact .heed phase cancelled
  · rename_i phase
    obtain ⟨done, pair⟩ := Option.ite_none_right_eq_some.1 h
    cases pair
    exact .quit phase (Bool.and_eq_true_iff.1 done).2
  · rename_i phase
    cases h
    exact .start phase
  · rename_i phase
    exact change_of_stepBusy phase (held (by simp only [isBusy, phase])) (Option.some.inj h)
  · rename_i phase
    cases h
    exact .cancel phase
  · rename_i phase
    cases h
    exact .abandon phase
  · rename_i phase
    cases h
    exact .leave phase
  · cases h

end Worker

/-! ## What a step does to an item -/

/-- Whether the item is about to leave the worker's hands for good. -/
def Stage.isSpent : Stage → Bool
  | .releasing _ | .crashing _ => true
  | _ => false

namespace Worker

/-- What a step of a worker does to the item in its hands, to the queue and to the results. -/
inductive Effect (setting : Setting W) (pool : PoolContext) (w : Worker W) (s : Shared W)
    (w' : Worker W) (s' : Shared W) : Prop where
  /-- There is no item. -/
  | none (idle : w.isBusy = false) (idle' : w'.isBusy = false) (queue : s'.queue = s.queue)
    (collector : s'.collector = s.collector)
  /-- An item is taken up. -/
  | take {item : WorkItem} (idle : w.isBusy = false) (phase' : w'.phase = .busy item .attempting)
    (claimed : s.queue.claim? w.device.id = some (item, s'.queue))
    (collector : s'.collector = s.collector)
  /-- The item goes from one stage to another. -/
  | work {item : WorkItem} {stage stage' : Stage} (phase : w.phase = .busy item stage)
    (phase' : w'.phase = .busy item stage')
    (change : StageChange setting ⟨⟨pool, w.device⟩, item⟩ s stage stage' s')
  /-- The item is put down. -/
  | drop {item : WorkItem} {stage : Stage} (phase : w.phase = .busy item stage)
    (spent : stage.isSpent = true) (idle' : w'.isBusy = false)
    (items : s'.queue.items = s.queue.items) (collector : s'.collector = s.collector)
    (inFlight : s'.queue.inFlight = s.queue.inFlight - 1)

theorem Change.effect {setting : Setting W} {pool : PoolContext} {w w' : Worker W} {s s' : Shared W}
    (h : Change setting pool w s w' s') : Effect setting pool w s w' s' := by
  cases h with
  | start phase =>
    exact .none (by simp only [isBusy, phase]) (excused_start ..).1.isBusy rfl rfl
  | claim phase claimed => exact .take (by simp only [isBusy, phase]) rfl claimed rfl
  | expire phase | heed phase | quit phase | cancel phase =>
    exact .none (by simp only [isBusy, phase]) rfl rfl rfl
  | work phase change => exact .work phase rfl change
  | release phase released | violate phase released | crash phase released =>
    obtain ⟨fewer, same⟩ := WorkQueue.release?_eq_some_iff.1 released
    exact .drop phase rfl rfl same rfl (Nat.eq_sub_of_add_eq fewer.symm)
  | abandon phase =>
    exact .none (by simp only [isBusy, phase]) (excused_abandon ..).1.isBusy rfl rfl
  | leave phase =>
    exact .none (by simp only [isBusy, phase]) (idle_leave ..).1 rfl rfl

end Worker

/-- A step with an item leaves it in flight. -/
theorem StageChange.inFlight {setting : Setting W} {ctx : AttemptContext} {s s' : Shared W} {stage stage' : Stage}
    (h : StageChange setting ctx s stage stage' s') : s'.queue.inFlight = s.queue.inFlight := by
  cases h with
  | offered accepted =>
    obtain ⟨-, -, rfl⟩ := WorkQueue.offer_eq_ok_iff.1 accepted
    rfl
  | _ => rfl

namespace Worker

/-- The number of items in flight changes as the worker takes one up and puts it down. -/
theorem Effect.inFlight {setting : Setting W} {pool : PoolContext} {w w' : Worker W}
    {s s' : Shared W} (h : Effect setting pool w s w' s')
    (counted : w.isBusy.toNat ≤ s.queue.inFlight) :
    s'.queue.inFlight + w.isBusy.toNat = s.queue.inFlight + w'.isBusy.toNat := by
  cases h with
  | none idle idle' queue => rw [queue, idle, idle']
  | take idle phase' claimed =>
    obtain ⟨_, _, -, queue, -⟩ := WorkQueue.claim?_eq_some_iff.1 claimed
    have after : w'.isBusy = true := by simp only [isBusy, phase']
    rw [queue, idle, after]
    rfl
  | work phase phase' change =>
    simp only [isBusy, phase, phase', change.inFlight]
  | drop phase spent idle' items collector inFlight =>
    have before : w.isBusy = true := by simp only [isBusy, phase]
    rw [before, Bool.toNat_true] at counted
    rw [inFlight, before, idle']
    exact Nat.sub_add_cancel counted

end Worker

/-! ## What a worker has in hand -/

/-- What a worker has in hand at a stage is of its attempt: results have the attempt's identity, and
what is offered is the next attempt at its item. -/
def Stage.Sound (setting : Setting W) (ctx : AttemptContext) : Stage → Prop
  | .deciding r | .stashing r | .announcing r _ | .keeping r => r.identity = ctx.identity
  | .offering next r =>
    r.identity = ctx.identity ∧ next = ctx.item.nextAttempt setting.retry r.device ctx.pool
  | .attempting | .releasing _ | .crashing _ => True

theorem StageChange.sound {setting : Setting W} {ctx : AttemptContext} {s s' : Shared W}
    {stage stage' : Stage} (h : StageChange setting ctx s stage stage' s')
    (sound : stage.Sound setting ctx) : stage'.Sound setting ctx := by
  cases h with
  | attempted run => exact AttemptContext.identity_of_run run
  | violated => trivial
  | rescued => rfl
  | retried retry => exact ⟨sound, (WorkItem.retry?_eq_some_iff.1 retry).2.2⟩
  | settled => exact sound
  | offered => exact sound.1
  | refused => exact sound.1
  | stashed => trivial
  | announced => exact sound
  | interrupted => rfl
  | crashed => trivial
  | kept => trivial

namespace Worker

variable {setting : Setting W} {pool : PoolContext} {w w' : Worker W} {s s' : Shared W}

/-- What a worker has in hand is of the item that it holds. -/
def Sound (setting : Setting W) (pool : PoolContext) (w : Worker W) : Prop :=
  match w.phase with
  | .busy item stage => stage.Sound setting ⟨⟨pool, w.device⟩, item⟩
  | _ => True

/-- A worker keeps its device. -/
theorem Change.device (h : Change setting pool w s w' s') : w'.device = w.device := by
  cases h with
  | start => exact (excused_start ..).2
  | abandon => exact (excused_abandon ..).2.1
  | leave => exact (idle_leave ..).2.1
  | _ => rfl

omit [Hosted W] in
theorem sound_of_idle (idle : w.isBusy = false) : w.Sound setting pool := by
  unfold isBusy at idle
  unfold Sound
  cases phase : w.phase <;> simp_all

/-- No step puts anything foreign into a worker's hands. -/
theorem Effect.sound (h : Effect setting pool w s w' s') (device : w'.device = w.device)
    (sound : w.Sound setting pool) : w'.Sound setting pool := by
  cases h with
  | none idle idle' => exact sound_of_idle idle'
  | take idle phase' =>
    simp only [Sound, phase']
    trivial
  | work phase phase' change =>
    simp only [Sound, phase, phase', device] at sound ⊢
    exact change.sound sound
  | drop phase spent idle' => exact sound_of_idle idle'

end Worker

end TestFleet
