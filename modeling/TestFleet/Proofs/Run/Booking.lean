import TestFleet.Proofs.Run.Outcomes
import TestFleet.Proofs.Run.Quota
/-!
# What becomes of a claimed item

A worker that holds an item books something for it: it offers the next attempt and keeps the result as
superseded, or it keeps the result as final. Whatever panics on the way, it does one of the two just
once before it puts the item down (`Stage.Books`), and what was booked is where it was put
(`PoolState.Has`). Only after a fatal error of the attempt does it book nothing, and then it calls the
run off. Where the reporter panics on the ERROR result that a panic was turned into, the panic leaves
the worker; nothing is said of this here.
-/
namespace TestFleet

open RunState (Past History)

variable {W : Type}

/-! ## Attempts that fail -/

namespace AttemptContext

variable [Hosted W] {ctx : AttemptContext} {setting : Setting W} {w w' : W} {e : PipelineError}

theorem isFatal_of_result {backends : List (Backend W)} {setup : Option ConfigError}
    {entered : Entered} {started : Time.Moment}
    (h : ctx.result backends setup entered started w = (.failed e, w')) : e.isFatal = true := by
  unfold result at h
  split at h
  · cases h
  · cases h
  · cases executed_of_execute h
    rfl

/-- An attempt fails only by an error that ends the run. -/
theorem isFatal_of_run (h : ctx.run setting w = (.failed e, w')) : e.isFatal = true := by
  rcases Action.bind_eq_failed_iff.1 h with failed | ⟨⟨pipeline, setup⟩, v₁, -, h⟩
  · unfold AttemptContext.pipeline at failed
    dsimp only at failed
    split at failed <;> cases failed
  rcases Action.bind_eq_failed_iff.1 h with failed | ⟨started, v₂, -, h⟩
  · cases failed
  rcases Action.bind_eq_failed_iff.1 h with failed | ⟨entered, v₃, -, h⟩
  · exact absurd failed Pipeline.enter_ne_failed
  rcases Action.bind_eq_failed_iff.1 h with failed | ⟨found, v₄, attempted, h⟩
  · unfold Action.attempt at failed
    split at failed <;> cases failed
  cases found with
  | ok r =>
    obtain ⟨rule, -, given, _, found, _, -, -, rfl⟩ := Pipeline.violates_of_unwind h
    rfl
  | error e' =>
    have fatal : e'.isFatal = true := by
      unfold Action.attempt at attempted
      split at attempted
      · cases attempted
      · rename_i failed
        cases attempted
        exact isFatal_of_result failed
      · cases attempted
    rcases Action.andThen_eq_failed_iff.1 h with failed | ⟨_, v₅, -, failed⟩
    · unfold Pipeline.release at failed
      split at failed <;> cases failed
    · cases failed
      exact fatal

end AttemptContext

/-! ## Bookings -/

/-- What a worker does for the item that it holds. -/
inductive Booking where
  /-- The next attempt is put into the queue. -/
  | requeued (next : WorkItem)
  /-- The result is kept as superseded. -/
  | superseded (r : TestResult)
  /-- The result is kept as final. -/
  | final (r : TestResult)

/-- What a worker at a stage books with its next step. -/
def Stage.booking : Stage → List Booking
  | .offering next _ => [.requeued next]
  | .stashing r => [.superseded r]
  | .keeping r => [.final r]
  | _ => []

/-- What a worker books with its next step. -/
def Worker.booking (w : Worker W) : List Booking :=
  match w.phase with
  | .busy _ stage => stage.booking
  | _ => []

theorem Worker.booking_eq_nil {w : Worker W} (idle : w.isBusy = false) : w.booking = [] := by
  unfold isBusy at idle
  unfold booking
  cases phase : w.phase <;> simp_all

namespace RunState.Past

/-- What a worker of a pool has booked. -/
def booked (past : Past W) (j : Nat) : List Booking :=
  shown Worker.booking (past.filter fun step => step.2 == .worker j)

variable {past : Past W} {p : PoolState W} {m : PoolMove} {j : Nat}

theorem booked_append_here {w : Worker W} (at_j : p.workers[j]? = some w) :
    booked (past ++ [(p, .worker j)]) j = past.booked j ++ w.booking := by
  simp [booked, shown_append, PoolState.shown_worker at_j]

theorem booked_append_elsewhere (elsewhere : m ≠ .worker j) :
    booked (past ++ [(p, m)]) j = past.booked j := by
  simp [booked, elsewhere]

end RunState.Past

/-- What has been booked when an item is put down: the next attempt was offered and the result kept
as superseded, or the result was kept as final. -/
inductive FullyBooked (setting : Setting W) (ctx : AttemptContext) : List Booking → Prop where
  | retried {r : TestResult} (own : r.identity = ctx.identity) :
    FullyBooked setting ctx
      [.requeued (ctx.item.nextAttempt setting.retry r.device ctx.pool), .superseded r]
  | final {r : TestResult} (own : r.identity = ctx.identity) : FullyBooked setting ctx [.final r]

/-- A result that is kept as final is of the attempt. -/
theorem FullyBooked.own {setting : Setting W} {ctx : AttemptContext} {booked : List Booking}
    (fully : FullyBooked setting ctx booked) {r : TestResult} (final : .final r ∈ booked) :
    r.identity = ctx.identity := by
  cases fully with
  | retried => simp at final
  | final own =>
    cases List.mem_singleton.1 final
    exact own

section Steps

variable [Hosted W] {setting : Setting W}

/-- The reporter panics on the ERROR result that a panic in the attempt was turned into. -/
def Setting.PanicsAgain (setting : Setting W) (ctx : AttemptContext) : Prop :=
  ∃ m now v m', (setting.reporter.tested (Worker.rescue ctx m now) v).1 = .panicked m'

/-- What has been booked when a worker is at a stage, and what has led there. -/
def Stage.Books (setting : Setting W) (ctx : AttemptContext) (booked : List Booking) : Stage → Prop
  | .stashing r => r.identity = ctx.identity ∧
    booked = [.requeued (ctx.item.nextAttempt setting.retry r.device ctx.pool)]
  | .announcing r rescued => booked = [] ∧ (rescued = true → ∃ m now, r = Worker.rescue ctx m now)
  | .releasing none => FullyBooked setting ctx booked
  | .releasing (some e) => booked = [] ∧ ∃ v v', ctx.run setting v = (.failed e, v')
  | .crashing _ => setting.PanicsAgain ctx
  | _ => booked = []

/-- The queue accepts what is about to be offered. -/
def Stage.Accepted (s : Shared W) : Stage → Prop
  | .offering next _ => ∃ queue, s.queue.offer next = .ok queue
  | _ => True

/-- What was booked is where it was put. -/
def Shared.Has (s : Shared W) : Booking → Prop
  | .requeued next => next ∈ s.queue.items
  | .superseded r => r ∈ s.collector.retried
  | .final r => r ∈ s.collector.results

/-- Each step from one stage to another books what the next stage expects. -/
theorem StageChange.books {ctx : AttemptContext} {s s' : Shared W} {stage stage' : Stage}
    {booked : List Booking} (h : StageChange setting ctx s stage stage' s')
    (sound : stage.Sound setting ctx) (accepts : stage.Accepted s)
    (books : stage.Books setting ctx booked) :
    stage'.Books setting ctx (booked ++ stage.booking) := by
  cases h with
  | attempted | retried => exact (List.append_nil booked).trans books
  | settled => exact ⟨(List.append_nil booked).trans books, nofun⟩
  | rescued => exact ⟨(List.append_nil booked).trans books, fun _ => ⟨_, _, rfl⟩⟩
  | interrupted => exact ⟨(List.append_nil booked).trans books.1, fun _ => ⟨_, _, rfl⟩⟩
  | announced => exact (List.append_nil booked).trans books.1
  | crashed told =>
    obtain ⟨m, now, rfl⟩ := books.2 rfl
    exact ⟨m, now, _, _, congrArg Prod.fst told⟩
  | violated run => exact ⟨(List.append_nil booked).trans books, _, _, run⟩
  | @offered next r queue =>
    obtain ⟨own, rfl⟩ := sound
    obtain rfl : booked = [] := books
    exact ⟨own, rfl⟩
  | refused rejected =>
    obtain ⟨queue, accepted⟩ := accepts
    rw [accepted] at rejected
    cases rejected
  | stashed =>
    obtain ⟨own, rfl⟩ := books
    exact .retried own
  | kept =>
    obtain rfl : booked = [] := books
    exact .final sound

theorem StageChange.has {ctx : AttemptContext} {s s' : Shared W} {stage stage' : Stage}
    (h : StageChange setting ctx s stage stage' s') (accepts : stage.Accepted s) :
    ∀ b ∈ stage.booking, s'.Has b := by
  cases h with
  | offered accepted =>
    obtain ⟨-, -, rfl⟩ := WorkQueue.offer_eq_ok_iff.1 accepted
    exact List.forall_mem_singleton.2 (List.mem_append_right _ List.mem_cons_self)
  | refused rejected =>
    obtain ⟨queue, accepted⟩ := accepts
    rw [accepted] at rejected
    cases rejected
  | stashed | kept => exact List.forall_mem_singleton.2 (List.mem_append_right _ List.mem_cons_self)
  | _ => exact List.forall_mem_nil _

namespace Worker

variable {pool : PoolContext} {w w' : Worker W} {s s' : Shared W} {ctx : AttemptContext}

/-- What has been booked for an item by a worker that holds it, or has put it down. -/
def Books (setting : Setting W) (ctx : AttemptContext) (booked : List Booking) (w : Worker W) : Prop :=
  match w.phase with
  | .busy item stage => item = ctx.item ∧ stage.Books setting ctx booked
  | .idle => FullyBooked setting ctx booked
  | .cancelling e => booked = [] ∧ ∃ v v', ctx.run setting v = (.failed e, v')
  | .stopped (.ok _) => setting.PanicsAgain ctx
  | _ => False

/-- The queue accepts what the worker is about to offer. -/
def Accepted (s : Shared W) (w : Worker W) : Prop :=
  match w.phase with
  | .busy _ stage => stage.Accepted s
  | _ => True

/-- A worker that holds an item books what is to be booked for it before it puts it down. -/
theorem Change.books {booked : List Booking} (h : Change setting pool w s w' s')
    (busy : w.isBusy = true) (sound : w.Sound setting pool) (accepts : w.Accepted s)
    (here : ctx.onDevice = ⟨pool, w.device⟩) (books : w.Books setting ctx booked) :
    w'.Books setting ctx (booked ++ w.booking) := by
  cases h with
  | work phase change =>
    simp only [Books, Sound, Accepted, booking, phase, at_, ← here] at books sound accepts change ⊢
    obtain ⟨rfl, books⟩ := books
    exact ⟨rfl, change.books sound accepts books⟩
  | release phase =>
    simp only [Books, booking, phase, Stage.booking, List.append_nil, at_] at books ⊢
    exact books.2
  | violate phase =>
    simp only [Books, booking, phase, Stage.booking, List.append_nil, at_] at books ⊢
    exact books.2
  | crash phase =>
    simp only [Books, phase, at_] at books ⊢
    exact books.2
  | start phase | expire phase | claim phase | heed phase | quit phase | cancel phase
  | abandon phase | leave phase => simp [isBusy, phase] at busy

/-- A worker that has put an item down has booked what is to be booked, is about to call the run
off, or was ended by a second panic. -/
theorem Books.down {booked : List Booking} (books : w.Books setting ctx booked)
    (down : w.isBusy = false) :
    (w.hasEnded = true → setting.PanicsAgain ctx) ∧
      (w.hasEnded = false → FullyBooked setting ctx booked ∨
        booked = [] ∧ ∃ e v v', w.phase = .cancelling e ∧ e.isFatal = true ∧
          ctx.run setting v = (.failed e, v')) := by
  unfold Books at books
  unfold isBusy at down
  unfold hasEnded
  split at books
  · rename_i phase
    rw [phase] at down
    cases down
  · rename_i phase
    simp only [phase]
    exact ⟨nofun, fun _ => .inl books⟩
  · rename_i e phase
    obtain ⟨none, v, v', failed⟩ := books
    simp only [phase]
    exact ⟨nofun, fun _ => .inr
      ⟨none, e, v, v', rfl, AttemptContext.isFatal_of_run failed, failed⟩⟩
  · rename_i phase
    simp only [phase]
    exact ⟨fun _ => books, nofun⟩
  · exact books.elim

/-- What a worker books with a step is there after it. -/
theorem Effect.has (h : Effect setting pool w s w' s') (accepts : w.Accepted s) :
    ∀ b ∈ w.booking, s'.Has b := by
  cases h with
  | none idle | take idle =>
    rw [booking_eq_nil idle]
    exact List.forall_mem_nil _
  | work phase phase' change =>
    simp only [Accepted, booking, phase] at accepts ⊢
    exact change.has accepts
  | @drop item stage phase spent =>
    simp only [booking, phase]
    cases stage with
    | releasing | crashing => exact List.forall_mem_nil _
    | _ => cases spent

/-- What waits for an attempt before a step still waits after it, or is attempted in it. -/
theorem Effect.queued (h : Effect setting pool w s w' s') {x : WorkItem} (queued : x ∈ s.queue.items) :
    x ∈ s'.queue.items ∨ x ∈ w'.attempting := by
  cases h with
  | none idle idle' queue => exact .inl (queue ▸ queued)
  | @take item idle phase' claimed =>
    have split := (WorkQueue.perm_of_claim? claimed).mem_iff.1 queued
    rcases List.mem_cons.1 split with rfl | other
    · exact .inr (by simp only [attempting, phase', List.mem_singleton])
    · exact .inl other
  | work phase phase' change =>
    refine .inl ?_
    cases change with
    | offered accepted =>
      obtain ⟨-, -, rfl⟩ := WorkQueue.offer_eq_ok_iff.1 accepted
      exact List.mem_append_left _ queued
    | _ => exact queued
  | drop phase spent idle' items =>
    rw [items]
    exact .inl queued

/-- What was collected stays collected while workers move. -/
theorem Effect.collected (h : Effect setting pool w s w' s') :
    s.collector.results ⊆ s'.collector.results ∧ s.collector.retried ⊆ s'.collector.retried := by
  cases h with
  | none idle idle' queue collector | take idle phase' claimed collector
  | drop phase spent idle' items collector =>
    rw [collector]
    exact ⟨List.Subset.refl _, List.Subset.refl _⟩
  | work phase phase' change =>
    cases change with
    | stashed => exact ⟨List.Subset.refl _, List.subset_append_left _ _⟩
    | kept => exact ⟨List.subset_append_left _ _, List.Subset.refl _⟩
    | _ => exact ⟨List.Subset.refl _, List.Subset.refl _⟩

end Worker

namespace PoolState

variable {p p' : PoolState W} {c c' : Common W} {m : PoolMove} {past : Past W} {j : Nat}
  {ctx : AttemptContext}

/-- What was booked is where it was put; the next attempt may have been made in the meantime. -/
def Has (past : Past W) (p : PoolState W) : Booking → Prop
  | .requeued next => next ∈ p.waiting ∨ next ∈ past.attempts
  | .superseded r => r ∈ p.collector.retried
  | .final r => r ∈ p.collector.results

omit [Hosted W] in
theorem mem_waiting {x : WorkItem} :
    x ∈ p.waiting ↔ x ∈ p.queue.items ∨ ∃ w ∈ p.workers, x ∈ w.attempting := by
  rw [waiting, List.mem_append, List.mem_flatMap]

theorem Has.shifts {k : Nat} {w w' : Worker W} {b : Booking} (has : p.Has past b)
    (h : Change setting p c m p' c') (moved : m.worker? = some k)
    (shifts : Shifts setting p c k w w' p' c') : p'.Has (past ++ [(p, m)]) b := by
  obtain ⟨results, retried⟩ := shifts.effect.collected
  cases b with
  | superseded r => exact retried has
  | final r => exact results has
  | requeued next =>
    have made : Past.attempts (past ++ [(p, m)]) = past.attempts ++ w.attempting := by
      rw [Past.attempts, Past.shown_append, h.shown Worker.attempting_eq_nil moved shifts.at_j]
      rfl
    simp only [Has, mem_waiting, made, List.mem_append] at has ⊢
    rcases has with (queued | ⟨v, hv, held⟩) | earlier
    · exact .inl ((shifts.effect.queued queued).imp_right fun taken => ⟨w', shifts.mem', taken⟩)
    · rcases shifts.eq_or_mem' hv with rfl | other
      · exact .inr (.inr held)
      · exact .inl (.inr ⟨v, other, held⟩)
    · exact .inr (.inl earlier)

omit [Hosted W] in
theorem has_of_shared {b : Booking} (has : (p.shared c).Has b) : p.Has past b := by
  cases b with
  | requeued next => exact .inl (List.mem_append_left _ has)
  | superseded r | final r => exact has

omit [Hosted W] in
theorem accepted (sound : p.Sound setting) (apart : p.entries.Nodup) (tallied : p.Tallied)
    {w : Worker W} (hw : w ∈ p.workers) : w.Accepted (p.shared c) := by
  unfold Worker.Accepted
  split
  · rename_i item stage phase
    cases stage with
    | offering next r => exact offer_accepted hw phase sound apart tallied
    | _ => trivial
  · trivial

omit [Hosted W] in
/-- No two final results are of the same test while the tests of a pool are apart. -/
theorem filter_results_eq (apart : p.entries.Nodup) {r : TestResult} (hr : r ∈ p.collector.results) :
    p.collector.results.filter (fun found => found.test.key == r.test.key) = [r] := by
  have once : (p.collector.results.map fun found => found.test.key).Nodup := by
    unfold entries TestFleet.entries at apart
    exact (List.nodup_append.1 apart).2.1
  have one := List.count_eq_one_of_mem once (List.mem_map_of_mem hr)
  rw [List.count_eq_countP, List.countP_map, List.countP_eq_length_filter] at one
  obtain ⟨found, only⟩ := List.length_eq_one_iff.1 one
  have same : r ∈ p.collector.results.filter ((· == r.test.key) ∘ fun found => found.test.key) :=
    List.mem_filter.2 ⟨hr, beq_self_eq_true r.test.key⟩
  rw [only] at same
  rw [← List.mem_singleton.1 same] at only
  exact only

/-- A worker of a pool that works holds the item of an attempt, and has booked what is to be booked
for it so far, or has just put it down. -/
structure Holds (setting : Setting W) (j : Nat) (ctx : AttemptContext) (past : Past W)
    (p : PoolState W) : Prop where
  working : p.phase = .working
  books : ∃ w, p.workers[j]? = some w ∧ ctx.onDevice = ⟨⟨setting.context, p.plan.pool⟩, w.device⟩ ∧
    w.Books setting ctx (past.booked j)
  has : ∀ b ∈ past.booked j, p.Has past b

/-- Whether a worker of a pool holds an item. -/
def isBusyAt (p : PoolState W) (j : Nat) : Bool := p.workers[j]?.any Worker.isBusy

omit [Hosted W] in
theorem isBusyAt_iff {w : Worker W} (at_j : p.workers[j]? = some w) :
    p.isBusyAt j = true ↔ w.isBusy = true := by
  rw [isBusyAt, at_j, Option.any_some]

/-- While a worker is busy it moves, or another worker of the pool does. -/
theorem Change.here_or_elsewhere {w : Worker W} (h : Change setting p c m p' c')
    (working : p.phase = .working) (at_j : p.workers[j]? = some w) (busy : w.isBusy = true) :
    (m = .worker j ∧ ∃ w', Shifts setting p c j w w' p' c') ∨
      (m ≠ .worker j ∧ p'.workers[j]? = some w ∧
        ∃ k v v', m.worker? = some k ∧ Shifts setting p c k v v' p' c') := by
  rcases h.own_or_shifts with rfl | ⟨k, v, v', moved, shifts⟩
  · -- A pool that works moves by itself only when its workers are gone.
    have gone : ∀ w ∈ p.workers, w.isGone = true := by
      cases h with
      | fail _ gone | drain _ gone => exact gone
      | start phase | refuse phase | abort phase | account phase | conclude phase | close phase =>
        simp [working] at phase
    have phase := Worker.isGone_iff.1 (gone w (List.mem_of_getElem? at_j))
    simp [Worker.isBusy, phase] at busy
  · by_cases here : k = j
    · subst here
      obtain rfl := Option.some.inj (at_j.symm.trans shifts.at_j)
      refine .inl ⟨?_, v', shifts⟩
      cases h with
      | worker => exact congrArg PoolMove.worker (Option.some.inj moved)
      | join _ at_i stopped | joinFailed _ at_i stopped =>
        obtain rfl := Option.some.inj moved
        obtain rfl := Option.some.inj (at_j.symm.trans at_i)
        simp [Worker.isBusy, stopped] at busy
      | _ => cases moved
    · refine .inr ⟨?_, ?_, k, v, v', moved, shifts⟩
      · rintro rfl
        exact here (Option.some.inj moved).symm
      · rw [shifts.workers, List.getElem?_set_ne here, at_j]

/-- A step of the worker books what is to be booked, and other steps leave what it has booked in its
place. -/
theorem Change.holds (h : Change setting p c m p' c') (sound : p.Sound setting)
    (apart : p.entries.Nodup) (tallied : p.Tallied) (busy : p.isBusyAt j = true)
    (holds : p.Holds setting j ctx past) : p'.Holds setting j ctx (past ++ [(p, m)]) := by
  obtain ⟨working, ⟨w, at_j, here, books⟩, has⟩ := holds
  have busy := (isBusyAt_iff at_j).1 busy
  rcases h.here_or_elsewhere working at_j busy with
    ⟨rfl, w', shifts⟩ | ⟨elsewhere, at_j', k, v, v', moved, shifts⟩
  · have accepts := accepted (c := c) sound apart tallied shifts.mem
    have change := shifts.cause.resolve_right fun notes => by
      obtain ⟨⟨_, stopped⟩, -⟩ := notes
      simp [Worker.isBusy, stopped] at busy
    have booked : Past.booked (past ++ [(p, .worker j)]) j = past.booked j ++ w.booking :=
      Past.booked_append_here at_j
    refine ⟨shifts.phase', ⟨w', ?_, ?_, ?_⟩, fun b hb => ?_⟩
    · rw [shifts.workers, List.getElem?_set_self (List.getElem?_eq_some_iff.1 at_j).1]
    · rw [here, h.plan, shifts.device]
    · rw [booked]
      exact change.books busy (sound w shifts.mem) accepts here books
    · rw [booked] at hb
      rcases List.mem_append.1 hb with earlier | new
      · exact (has b earlier).shifts h rfl shifts
      · exact has_of_shared (shifts.effect.has accepts b new)
  · have booked : Past.booked (past ++ [(p, m)]) j = past.booked j :=
      Past.booked_append_elsewhere elsewhere
    refine ⟨shifts.phase', ⟨w, at_j', ?_, ?_⟩, fun b hb => ?_⟩
    · rw [here, h.plan]
    · rwa [booked]
    · rw [booked] at hb
      exact (has b hb).shifts h moved shifts

end PoolState

/-! ## Runs -/

namespace RunState

variable {world : W} {quota i j : Nat} {plans : List PoolPlan} {history : History W}
  {s t : RunState W} {p p' : PoolState W} {w : Worker W} {ctx : AttemptContext}

/-- What holds of a pool as long as a worker that has taken an item up holds it, and just after. -/
theorem Reachable.holds (reachable : Reachable setting (ofPlans world quota plans) s)
    (at_i : s.pools[i]? = some p) (at_j : p.workers[j]? = some w)
    (here : ctx.onDevice = ⟨⟨setting.context, p.plan.pool⟩, w.device⟩)
    (taken : w.phase = .busy ctx.item .attempting) (trace : Trace setting s history t)
    (busy : ∀ step ∈ history.ofPool i, step.1.isBusyAt j = true) (at_i' : t.pools[i]? = some p') :
    p'.Tallied ∧ p'.entries.Nodup ∧ p'.Holds setting j ctx (history.ofPool i) := by
  -- The tests of a pool are apart by what is known of it since the run began.
  obtain ⟨earlier, before⟩ := reachable.trace
  have apart {p : PoolState W} {past : Past W} (recorded : p.Recorded setting past)
      (working : p.phase = .working) : p.entries.Nodup := by
    have known := recorded.known
    rw [working] at known
    exact known.apart
  obtain ⟨⟨_, recorded⟩, tallied, holds⟩ := trace.induct
    (fun past p _ => (∃ all, p.Recorded setting all) ∧ p.Tallied ∧
      ((∀ step ∈ past, step.1.isBusyAt j = true) → p.Holds setting j ctx past))
    (fun _ _ known => known)
    (fun past p c m p' c' known change => by
      obtain ⟨⟨all, recorded⟩, tallied, holds⟩ := known
      refine ⟨⟨_, change.recorded recorded⟩, change.tallied tallied, fun busy => ?_⟩
      have holds := holds fun step earlier => busy step (List.mem_append_left _ earlier)
      exact change.holds recorded.sound (apart recorded holds.working) tallied
        (busy (p, m) (List.mem_append_right _ List.mem_cons_self)) holds)
    reachable.tallied
    (fun q again => by
      obtain rfl := Option.some.inj (at_i.symm.trans again)
      refine ⟨⟨_, (before.recorded at_i).2⟩, (reachable.settled at_i).tallied, fun _ =>
        ⟨?_, ⟨w, at_j, here, ?_⟩, List.forall_mem_nil _⟩⟩
      · refine (before.rest (List.mem_of_getElem? at_i)).resolve_right fun idle => ?_
        have idle := idle w (List.mem_of_getElem? at_j)
        simp [Worker.isBusy, taken] at idle
      · simp only [Worker.Books, taken]
        exact ⟨trivial, rfl⟩) p' at_i'
  have holds := holds busy
  exact ⟨tallied, apart recorded holds.working, holds⟩

end RunState

/-- **No item is lost, whatever panics in an attempt at it.** Let a worker take an item up, and let
it hold the item until it puts it down, while others move as they like. Then no claim is left in
flight but those of busy workers, no test is in two places, and unless the worker itself was ended:
* it has offered the next attempt and kept the result as superseded, each once and nothing else, and
  the next attempt waits or has been taken up in turn; or
* it has kept the result as final, once and nothing else, and this is the only final result of the
  test; or
* the attempt failed by an error that ends the run. Then it has kept nothing, and calls the run off.

The worker is ended only if the reporter panics on the ERROR result that a panic was turned into. -/
theorem no_item_lost {world : W} {quota i j : Nat} {plans : List PoolPlan} {history : History W}
    {s t : RunState W} {p p' : PoolState W} {w w' : Worker W} {x : WorkItem}
    (reachable : RunState.Reachable setting (.ofPlans world quota plans) s)
    (at_i : s.pools[i]? = some p) (at_j : p.workers[j]? = some w)
    (taken : w.phase = .busy x .attempting) (trace : RunState.Trace setting s history t)
    (busy : ∀ step ∈ history.ofPool i, step.1.isBusyAt j = true)
    (at_i' : t.pools[i]? = some p') (at_j' : p'.workers[j]? = some w') (down : w'.isBusy = false) :
    let ctx : AttemptContext := ⟨⟨⟨setting.context, p.plan.pool⟩, w.device⟩, x⟩
    let booked := Past.booked (history.ofPool i) j
    p'.queue.inFlight = p'.workers.countP Worker.isBusy ∧ p'.entries.Nodup ∧
      (w'.hasEnded = true → setting.PanicsAgain ctx) ∧
      (w'.hasEnded = false →
        FullyBooked setting ctx booked ∧ (∀ b ∈ booked, p'.Has (history.ofPool i) b) ∧
            (∀ r, .final r ∈ booked →
              p'.collector.results.filter (fun found => found.test.key == x.key) = [r]) ∨
          booked = [] ∧ ∃ e v v', w'.phase = .cancelling e ∧ e.isFatal = true ∧
            ctx.run setting v = (.failed e, v')) := by
  intro ctx booked
  have here : ctx.onDevice = ⟨⟨setting.context, p.plan.pool⟩, w.device⟩ := rfl
  obtain ⟨tallied, apart, working, ⟨v, again, -, books⟩, has⟩ :=
    reachable.holds at_i at_j here taken trace busy at_i'
  obtain rfl := Option.some.inj (at_j'.symm.trans again)
  obtain ⟨ended, goes_on⟩ := books.down down
  refine ⟨tallied, apart, ended, fun still => (goes_on still).imp_left fun fully => ?_⟩
  refine ⟨fully, has, fun r final => ?_⟩
  have own : r.test.key = x.key := congrArg (fun i : ResultIdentity => i.test.key) (fully.own final)
  rw [← own]
  exact PoolState.filter_results_eq apart (has _ final)

end Steps

/-! ## A reporter that panics once, and a panic before an identity is lost -/

namespace Sample

/-- Panics when it is told of a test that passed. -/
def startled : Setting Host :=
  { setting with
    backends := [passing]
    reporter := { Reporter.silent with
      tested := fun r => if r.status == .pass then .crash "startled" else .give () } }

/-- Panics in every attempt, in the place of the backend that fails them. -/
def exploding : Backend Host := { backend with execute := fun _ => .crash "exploded" }

/-- Gives the result of every attempt to another pool. -/
def misplacing : Rule Host AttemptContext TestResult where
  name := "misplacing"
  before _ := .give ()
  after _ r := .give { r with identity := { r.identity with pool := ⟨"elsewhere"⟩ } }

/-- The backend that panics, and the rule after it. -/
def misplaced : Setting Host :=
  { setting with
    context :=
      ⟨default, { config with rules := { testCaseRun := [⟨"sample.rule", none, []⟩] } }, "", default⟩
    registry := Registry.empty.withAttemptRule "sample.rule" fun _ _ => .done [misplacing]
    backends := [exploding] }

/-- The item that the first worker of the first pool has just taken up. -/
def takenUp? (s : RunState Host) : Option (PoolState Host × Worker Host × WorkItem) := do
  let p ← s.pools[0]?
  let w ← p.workers[0]?
  match w.phase with
  | .busy x .attempting => some (p, w, x)
  | _ => none

/-- The first worker of the first pool when it has just put its item down, and goes on. -/
def putDown? (run : History Host × RunState Host) : Option (PoolState Host × Worker Host) := do
  let p ← run.2.pools[0]?
  let w ← p.workers[0]?
  if !w.isBusy && !w.hasEnded && (run.1.ofPool 0).all fun step => step.1.isBusyAt 0 then some (p, w)
  else none

/-- The first worker takes the item up, and then makes so many moves that it puts it down. -/
def attempt? (setting : Setting Host) (n : Nat) : Option (Past Host × PoolState Host) := do
  let (_, s) ← (RunState.ofPlans default 0 [plan]).follow setting
    [.pool 0, .worker 0 0 .proceed, .worker 0 0 .claim]
  let _ ← takenUp? s
  let run ← s.follow setting (.replicate n (.worker 0 0 .proceed))
  let (p, _) ← putDown? run
  pure (run.1.ofPool 0, p)

/-- The ERROR result that is all that was booked. -/
def finalError? : List Booking → Option TestResult
  | [.final r] => if r.status = .error then some r else none
  | _ => none

theorem finalError?_eq_some {booked : List Booking} {r : TestResult}
    (found : finalError? booked = some r) : booked = [.final r] ∧ r.status = .error := by
  unfold finalError? at found
  split at found
  · obtain ⟨error, same⟩ := Option.ite_none_right_eq_some.1 found
    cases same
    exact ⟨rfl, error⟩
  · cases found

theorem exists_of_attempt? {setting : Setting Host} {n : Nat} {past : Past Host} {p' : PoolState Host}
    (attempt : attempt? setting n = some (past, p')) : ∃ s p w x history t w',
      RunState.Reachable setting (.ofPlans default 0 [plan]) s ∧ s.pools[0]? = some p ∧
        p.workers[0]? = some w ∧ w.phase = .busy x .attempting ∧
        RunState.Trace setting s history t ∧ history.ofPool 0 = past ∧
        (∀ step ∈ past, step.1.isBusyAt 0 = true) ∧ t.pools[0]? = some p' ∧
        p'.workers[0]? = some w' ∧ w'.isBusy = false ∧ w'.hasEnded = false := by
  obtain ⟨⟨_, s⟩, begun, attempt⟩ := Option.bind_eq_some_iff.1 attempt
  obtain ⟨⟨p, w, x⟩, takes, attempt⟩ := Option.bind_eq_some_iff.1 attempt
  obtain ⟨⟨history, t⟩, followed, attempt⟩ := Option.bind_eq_some_iff.1 attempt
  obtain ⟨⟨q, w'⟩, down, last⟩ := Option.bind_eq_some_iff.1 attempt
  cases last
  obtain ⟨_, at_i, takes⟩ := Option.bind_eq_some_iff.1 takes
  obtain ⟨_, at_j, takes⟩ := Option.bind_eq_some_iff.1 takes
  split at takes
  · rename_i phase
    cases takes
    obtain ⟨_, at_i', down⟩ := Option.bind_eq_some_iff.1 down
    obtain ⟨_, at_j', down⟩ := Option.bind_eq_some_iff.1 down
    obtain ⟨holds, same⟩ := Option.ite_none_right_eq_some.1 down
    cases same
    simp only [Bool.and_eq_true, Bool.not_eq_true', List.all_eq_true] at holds
    exact ⟨s, p, w, x, history, t, w', (RunState.Trace.refl.follow begun).reachable, at_i, at_j,
      phase, RunState.Trace.refl.follow followed, rfl, holds.2, at_i', at_j', holds.1.1, holds.1.2⟩
  · cases takes

end Sample

open Sample in
/-- The test passes, and the reporter panics as it is told so. The one final result of the test is
an ERROR. -/
theorem rescued_of_startled : ∃ s history t p' r, ∃ x : WorkItem,
    RunState.Reachable startled (.ofPlans default 0 [plan]) s ∧
      RunState.Trace startled s history t ∧ t.pools[0]? = some p' ∧
      Past.booked (history.ofPool 0) 0 = [.final r] ∧ r.status = .error ∧
      p'.collector.results.filter (fun found => found.test.key == x.key) = [r] := by
  have found : (attempt? startled 6).any (fun run => (finalError? (run.1.booked 0)).isSome) = true := by
    decide +kernel
  obtain ⟨⟨past, p'⟩, attempt, found⟩ := (Option.any_eq_true _ _).1 found
  obtain ⟨r, found⟩ := Option.isSome_iff_exists.1 found
  obtain ⟨s, p, w, x, history, t, w', reachable, at_i, at_j, taken, trace, rfl, busy, at_i', at_j',
    down, here⟩ := exists_of_attempt? attempt
  obtain ⟨booked, error⟩ := finalError?_eq_some found
  refine ⟨s, history, t, p', r, x, reachable, trace, at_i', booked, error, ?_⟩
  rcases (no_item_lost reachable at_i at_j taken trace busy at_i' at_j' down).2.2.2 here with
    ⟨-, -, only⟩ | ⟨none, -⟩
  · exact only r (by rw [booked]; exact List.mem_cons_self)
  · rw [booked] at none
    cases none

open Sample in
/-- Where the backend panics, and a rule then changes the identity of the ERROR result, nothing is
left of the item when the attempt is over. -/
theorem lost_of_misplaced :
    (∀ ctx w, exploding.execute ctx w = (.panicked "exploded", w)) ∧
    ∃ s p w x history t p' w',
      RunState.Reachable misplaced (.ofPlans default 0 [plan]) s ∧ s.pools[0]? = some p ∧
        p.workers[0]? = some w ∧ w.phase = .busy x .attempting ∧
        RunState.Trace misplaced s history t ∧
        (∀ step ∈ history.ofPool 0, step.1.isBusyAt 0 = true) ∧ t.pools[0]? = some p' ∧
        p'.workers[0]? = some w' ∧ w'.isBusy = false ∧ w'.hasEnded = false ∧
        p'.waiting = [] ∧ p'.collector.results = [] ∧ p'.collector.retried = [] := by
  refine ⟨fun _ _ => rfl, ?_⟩
  have nothing : (attempt? misplaced 2).any (fun run => run.2.waiting.isEmpty &&
      run.2.collector.results.isEmpty && run.2.collector.retried.isEmpty) = true := by
    decide +kernel
  obtain ⟨⟨past, p'⟩, attempt, nothing⟩ := (Option.any_eq_true _ _).1 nothing
  obtain ⟨s, p, w, x, history, t, w', reachable, at_i, at_j, taken, trace, rfl, busy, at_i', at_j',
    down, here⟩ := exists_of_attempt? attempt
  simp only [Bool.and_eq_true, List.isEmpty_iff] at nothing
  exact ⟨s, p, w, x, history, t, p', w', reachable, at_i, at_j, taken, trace, busy, at_i', at_j', down,
    here, nothing.1.1, nothing.1.2, nothing.2⟩

end TestFleet
