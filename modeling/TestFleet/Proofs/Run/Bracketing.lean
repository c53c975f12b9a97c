import TestFleet.Proofs.Run.StepCalls
import TestFleet.Proofs.Run.Course
/-!
# Every scope that is entered is left

The calls of a whole run are bracketed at every place: in every instance of a scope the rules whose
`before` was done have their `after` called, each once and in reverse, and everything inside the scope
is called in between. How the calls stand while a run lasts is read off its state
(`Worker.Stands`, `PoolState.Stands`), and every step keeps it; when a pool is over nothing in it is
left open. Two panics would leave a scope without unwinding it: waiting past the end of the clock, and
a limit for backends that cannot be told.
-/
namespace TestFleet

variable {W : Type} {events : List Event} {calls : List Call}

theorem OnlyTold.untouched {place : Place} (told : OnlyTold calls) :
    Untouched place (calls.map Call.event) := fun e he => by
  obtain ⟨call, hcall, rfl⟩ := List.mem_map.1 he
  rw [told call hcall]
  rfl

/-- No wait leads past the end of the clock, and the limit for backends can be told. -/
structure RunSettings.Tellable (s : RunSettings) : Prop where
  poll : s.pollTimeout.isBeyondClock = false
  answer : s.answerLimit.overflows = false

/-! ## Workers -/

namespace Worker

variable {setting : Setting W} {i j : Nat} {w w' : Worker W}

/-- How the calls at a worker's device stand, and those in its attempts: all attempts that it has made
are bracketed, and those that it may make are to come. -/
structure Stands (i j : Nat) (w : Worker W) (events : List Event) : Prop where
  ahead : w.phase = .starting → Untouched (.device i j) events
  inside : w.isUnderway = true →
    ∃ full, Opened (.device i j) w.depth full events ∧ (w.takesWork = true → full = true)
  ended : w.isUnderway = false → w.phase ≠ .starting → Bracketed (.device i j) events
  made : ∀ n item started, Bracketed (.attempt i j n item started) events
  later : w.takesWork = true → ∀ n item started, w.attemptsMade ≤ n →
    Untouched (.attempt i j n item started) events

theorem isUnderway_of_takesWork (takes : w.takesWork = true) : w.isUnderway = true := by
  unfold takesWork at takes
  unfold isUnderway
  cases phase : w.phase <;> simp_all

theorem phase_ne_of_isUnderway (underway : w.isUnderway = true) : w.phase ≠ .starting := by
  intro phase
  simp [isUnderway, phase] at underway

/-- A worker whose rules are entered has its device open. -/
theorem Stands.ofUnderway {full : Bool} (underway : w.isUnderway = true)
    (opened : Opened (.device i j) w.depth full events) (all : w.takesWork = true → full = true)
    (made : ∀ n item started, Bracketed (.attempt i j n item started) events)
    (later : w.takesWork = true → ∀ n item started, w.attemptsMade ≤ n →
      Untouched (.attempt i j n item started) events) : w.Stands i j events where
  ahead begins := absurd begins (phase_ne_of_isUnderway underway)
  inside _ := ⟨full, opened, all⟩
  ended stopped := by simp [underway] at stopped
  made := made
  later := later

/-- A worker that is done has its device bracketed, and makes no more attempts. -/
theorem Stands.ofStopped (stopped : w.isUnderway = false) (begun : w.phase ≠ .starting)
    (ended : Bracketed (.device i j) events)
    (made : ∀ n item started, Bracketed (.attempt i j n item started) events) :
    w.Stands i j events where
  ahead begins := absurd begins begun
  inside underway := by simp [stopped] at underway
  ended _ _ := ended
  made := made
  later takes := by simp [isUnderway_of_takesWork takes] at stopped

theorem Stands.untouched (stands : w.Stands i j events) (phase : w.phase = .starting) (n : Nat)
    (item : WorkItem) (started : Time.Moment) : Untouched (.attempt i j n item started) events :=
  (stands.ahead phase).inside Place.attempt_isWithin_device

/-- Calls elsewhere change nothing at a worker. -/
theorem Stands.after {es : List Event} (stands : w.Stands i j events)
    (untouched : Untouched (.device i j) es) : w.Stands i j (events ++ es) := by
  have attempts (n : Nat) (item : WorkItem) (started : Time.Moment) :
      Untouched (.attempt i j n item started) es :=
    untouched.inside Place.attempt_isWithin_device
  exact {
    ahead phase := untouched_append.2 ⟨stands.ahead phase, untouched⟩
    inside underway := by
      obtain ⟨full, opened, takes⟩ := stands.inside underway
      exact ⟨full, opened.after untouched, takes⟩
    ended stopped begun := (stands.ended stopped begun).after untouched
    made n item started := (stands.made n item started).after (attempts n item started)
    later takes n item started coming :=
      untouched_append.2 ⟨stands.later takes n item started coming, attempts n item started⟩ }

/-- All that a worker calls is at its device or in its attempts. -/
theorem Shows.within (h : Shows setting i j w w' calls) :
    ∀ e ∈ calls.map Call.event, e = .told ∨ e.isWithin (.device i j) = true := by
  intro e he
  cases h with
  | unbuilt | expire => cases he
  | enter phase events | leave phase phase' events =>
    rw [events] at he
    exact .inr (Place.isWithin_of_mem_events he)
  | attempt phase stays made within =>
    exact .inr (Event.isWithin_of_isWithin (within e he) Place.attempt_isWithin_device)
  | other underway underway' depth told =>
    obtain ⟨call, hcall, rfl⟩ := List.mem_map.1 he
    rw [told call hcall]
    exact .inl rfl

/-- What a worker calls in a step is what the state that it comes to says. -/
theorem Shows.stands (tellable : setting.context.config.run.Tellable)
    (h : Shows setting i j w w' calls) (stands : w.Stands i j events) :
    w'.Stands i j (events ++ calls.map Call.event) := by
  cases h with
  | unbuilt phase phase' =>
    rw [List.map_nil, List.append_nil]
    have stopped : w'.isUnderway = false := by simp only [isUnderway, phase']
    exact .ofStopped stopped (by simp [phase']) (stands.ahead phase).bracketed stands.made
  | @enter full calls phase entering next =>
    have attempts (n : Nat) (item : WorkItem) (started : Time.Moment) :
        Untouched (.attempt i j n item started) (calls.map Call.event) := by
      rw [entering]
      exact untouched_events (Place.not_isWithin_of_level (by simp))
    have opened : Opened (.device i j) w'.depth full (events ++ calls.map Call.event) := by
      rw [entering]
      exact (stands.ahead phase).enter
    have next : w'.isUnderway = true ∧ (w'.takesWork = true → full = true) := by
      rcases next with ⟨rfl, idle⟩ | ⟨-, leaving⟩
      · exact ⟨by simp only [isUnderway, idle], fun _ => rfl⟩
      · exact ⟨by simp only [isUnderway, leaving], by simp [takesWork, leaving]⟩
    exact .ofUnderway next.1 opened next.2
      (fun n item started => (stands.made n item started).after (attempts n item started))
      fun _ n item started _ =>
        untouched_append.2 ⟨stands.untouched phase n item started, attempts n item started⟩
  | expire _ beyond => cases tellable.poll.symm.trans beyond
  | @attempt item stage' started calls phase stays made within bracketed =>
    have takes : w.takesWork = true := by simp only [takesWork, phase]
    have underway : w'.isUnderway = true := by
      rw [stays]
      rfl
    have depth : w'.depth = w.depth := by
      rw [stays]
      rfl
    obtain ⟨full, opened, all⟩ := stands.inside (isUnderway_of_takesWork takes)
    obtain rfl := all takes
    have others (e : Event) (he : e ∈ calls.map Call.event) : e.isOf (.device i j) = false :=
      Event.not_isOf_of_isWithin (within e he) (Place.not_isWithin_of_level (by simp))
    -- An attempt that was not made before is all that is called.
    have apart (n : Nat) (other : WorkItem) (at_ : Time.Moment)
        (differs : Place.attempt i j n other at_ ≠ .attempt i j w.executed item started) :
        Untouched (.attempt i j n other at_) (calls.map Call.event) :=
      untouched_of_apart (fun e he => .inr (within e he)) (Place.apart_of_level rfl differs.symm)
    have fresh : w.attemptsMade ≤ w.executed := by simp only [attemptsMade, phase, Nat.le_refl]
    refine .ofUnderway underway (depth ▸ opened.call others) (fun _ => rfl) ?_ ?_
    · intro n other at_
      by_cases this : Place.attempt i j n other at_ = .attempt i j w.executed item started
      · rw [this]
        exact (stands.later takes _ _ _ fresh).before (bracketed tellable.answer)
      · exact (stands.made n other at_).after (apart n other at_ this)
    · intro _ n other at_ coming
      refine untouched_append.2 ⟨stands.later takes n other at_ (by omega), apart n other at_ ?_⟩
      intro same
      cases same
      omega
  | leave phase phase' leaving =>
    have underway : w.isUnderway = true := by
      rcases phase with phase | ⟨e, phase⟩ <;> simp only [isUnderway, phase]
    have attempts (n : Nat) (item : WorkItem) (started : Time.Moment) :
        Untouched (.attempt i j n item started) (calls.map Call.event) := by
      rw [leaving]
      exact untouched_events (Place.not_isWithin_of_level (by simp))
    obtain ⟨full, opened, -⟩ := stands.inside underway
    have stopped : w'.isUnderway = false := by simp only [isUnderway, phase']
    refine .ofStopped stopped (by simp [phase']) ?_ fun n item started =>
      (stands.made n item started).after (attempts n item started)
    rw [leaving]
    exact opened.leave
  | other underway underway' depth told takes =>
    have attempts (n : Nat) (item : WorkItem) (started : Time.Moment) :
        Untouched (.attempt i j n item started) (calls.map Call.event) := told.untouched
    obtain ⟨full, opened, all⟩ := stands.inside underway
    refine .ofUnderway underway' (depth ▸ opened.after told.untouched)
      (fun takes' => all (takes takes').1)
      (fun n item started => (stands.made n item started).after told.untouched) ?_
    intro takes' n item started coming
    obtain ⟨took, same⟩ := takes takes'
    exact untouched_append.2 ⟨stands.later took n item started (same ▸ coming), told.untouched⟩

end Worker

/-! ## Pools -/

namespace PoolState

variable {setting : Setting W} {i : Nat} {p p' : PoolState W}

/-- How the calls in a pool stand. -/
structure Stands (i : Nat) (p : PoolState W) (events : List Event) : Prop where
  ahead : p.phase = .planned → Untouched (.pool i) events
  inside : p.isUnderway = true →
    ∃ full, Opened (.pool i) p.depth full events ∧ (p.isWorking = true → full = true)
  ended : p.isOver = true → Bracketed (.pool i) events
  crew : ∀ (j : Nat) (w : Worker W), p.workers[j]? = some w → w.Stands i j events
  others : ∀ j, p.workers[j]? = none → Untouched (.device i j) events
  idle : p.isWorking = false → ∀ w ∈ p.workers, w.isUnderway = false

theorem phase_ne_of_isUnderway (underway : p.isUnderway = true) : p.phase ≠ .planned := by
  intro phase
  simp [isUnderway, phase] at underway

theorem isUnderway_of_isWorking (working : p.isWorking = true) : p.isUnderway = true := by
  unfold isWorking at working
  unfold isUnderway
  cases phase : p.phase <;> simp_all

theorem isOver_eq_false_of_isUnderway (underway : p.isUnderway = true) : p.isOver = false := by
  unfold isUnderway at underway
  unfold isOver
  cases phase : p.phase <;> simp_all

/-- All that is called in a step of a pool is at the pool or inside it. -/
theorem Shows.within (h : Shows setting i p p' calls) :
    ∀ e ∈ calls.map Call.event, e = .told ∨ e.isWithin (.pool i) = true := by
  intro e he
  cases h with
  | unbuilt | join => cases he
  | enter phase workers events | leave underway idle ended workers events =>
    rw [events] at he
    exact .inr (Place.isWithin_of_mem_events he)
  | other underway underway' idle workers depth gone told =>
    obtain ⟨call, hcall, rfl⟩ := List.mem_map.1 he
    rw [told call hcall]
    exact .inl rfl
  | worker working working' at_j workers depth shows =>
    exact (shows.within e he).imp_right fun within =>
      Event.isWithin_of_isWithin within Place.device_isWithin_pool

/-- Calls elsewhere change nothing in a pool. -/
theorem Stands.after {es : List Event} (stands : p.Stands i events)
    (untouched : Untouched (.pool i) es) : p.Stands i (events ++ es) := by
  have devices (j : Nat) : Untouched (.device i j) es :=
    untouched.inside Place.device_isWithin_pool
  exact {
    ahead phase := untouched_append.2 ⟨stands.ahead phase, untouched⟩
    inside underway := by
      obtain ⟨full, opened, working⟩ := stands.inside underway
      exact ⟨full, opened.after untouched, working⟩
    ended ended := (stands.ended ended).after untouched
    crew j w at_j := (stands.crew j w at_j).after (devices j)
    others j none := untouched_append.2 ⟨stands.others j none, devices j⟩
    idle := stands.idle }

/-- A pool whose rules are entered is open. -/
theorem Stands.ofUnderway {full : Bool} (underway : p.isUnderway = true)
    (opened : Opened (.pool i) p.depth full events) (all : p.isWorking = true → full = true)
    (standing : (∀ (j : Nat) (w : Worker W), p.workers[j]? = some w → w.Stands i j events) ∧
      ∀ j, p.workers[j]? = none → Untouched (.device i j) events)
    (idle : p.isWorking = false → ∀ w ∈ p.workers, w.isUnderway = false) : p.Stands i events where
  ahead begins := absurd begins (phase_ne_of_isUnderway underway)
  inside _ := ⟨full, opened, all⟩
  ended ended := by simp [isOver_eq_false_of_isUnderway underway] at ended
  crew := standing.1
  others := standing.2
  idle := idle

/-- A pool that is over is bracketed. -/
theorem Stands.ofOver (ended : p.isOver = true) (bracketed : Bracketed (.pool i) events)
    (standing : (∀ (j : Nat) (w : Worker W), p.workers[j]? = some w → w.Stands i j events) ∧
      ∀ j, p.workers[j]? = none → Untouched (.device i j) events)
    (idle : ∀ w ∈ p.workers, w.isUnderway = false) : p.Stands i events where
  ahead begins := by simp [isOver, begins] at ended
  inside underway := by simp [isOver_eq_false_of_isUnderway underway] at ended
  ended _ := bracketed
  crew := standing.1
  others := standing.2
  idle _ := idle

/-- As the rules of the pool are called its workers stand as they stood. -/
theorem Stands.same (stands : p.Stands i events) (es : List Event)
    (workers : p'.workers = p.workers) (devices : ∀ j, Untouched (.device i j) es) :
    (∀ (j : Nat) (w : Worker W), p'.workers[j]? = some w → w.Stands i j (events ++ es)) ∧
      ∀ j, p'.workers[j]? = none → Untouched (.device i j) (events ++ es) := by
  rw [workers]
  exact ⟨fun j w at_j => (stands.crew j w at_j).after (devices j),
    fun j none => untouched_append.2 ⟨stands.others j none, devices j⟩⟩

/-- As one worker calls, or stops, the others stand as they stood. -/
theorem Stands.set {j : Nat} {w w' : Worker W} (stands : p.Stands i events) (es : List Event)
    (at_j : p.workers[j]? = some w) (workers : p'.workers = p.workers.set j w')
    (within : ∀ e ∈ es, e = .told ∨ e.isWithin (.device i j) = true)
    (worker : w'.Stands i j (events ++ es)) :
    (∀ (k : Nat) (v : Worker W), p'.workers[k]? = some v → v.Stands i k (events ++ es)) ∧
      ∀ k, p'.workers[k]? = none → Untouched (.device i k) (events ++ es) := by
  have apart (k : Nat) (differs : k ≠ j) : Untouched (.device i k) es :=
    untouched_of_apart within (Place.apart_of_level rfl (by simpa using differs.symm))
  have inside := (List.getElem?_eq_some_iff.1 at_j).1
  rw [workers]
  refine ⟨fun k v at_k => ?_, fun k none => ?_⟩
  · by_cases same : k = j
    · subst same
      rw [List.getElem?_set_self inside] at at_k
      exact Option.some.inj at_k ▸ worker
    · rw [List.getElem?_set_ne (Ne.symm same)] at at_k
      exact (stands.crew k v at_k).after (apart k same)
  · by_cases same : k = j
    · subst same
      rw [List.getElem?_set_self inside] at none
      cases none
    · rw [List.getElem?_set_ne (Ne.symm same)] at none
      exact untouched_append.2 ⟨stands.others k none, apart k same⟩

/-- What is called in a step of a pool is what the state that it comes to says. -/
theorem Shows.stands (tellable : setting.context.config.run.Tellable)
    (h : Shows setting i p p' calls) (stands : p.Stands i events) :
    p'.Stands i (events ++ calls.map Call.event) := by
  -- Rules of the pool are not called at its devices.
  have devices (acts : List (Nat × Act)) (j : Nat) :
      Untouched (.device i j) ((Place.pool i).events acts) :=
    untouched_events (Place.not_isWithin_of_level (by simp))
  cases h with
  | unbuilt phase ended workers =>
    have standing := stands.same [] workers fun _ => Untouched.nil
    have idle : p.isWorking = false := by simp only [isWorking, phase]
    rw [List.append_nil] at standing
    rw [List.map_nil, List.append_nil]
    exact .ofOver ended (stands.ahead phase).bracketed standing (workers ▸ stands.idle idle)
  | @enter full calls phase workers entering underway' next =>
    have opened : Opened (.pool i) p'.depth full (events ++ calls.map Call.event) := by
      rw [entering]
      exact (stands.ahead phase).enter
    have idle : p.isWorking = false := by simp only [isWorking, phase]
    exact .ofUnderway underway' opened (fun working => next ▸ working)
      (stands.same _ workers (entering ▸ devices _)) fun _ => workers ▸ stands.idle idle
  | leave underway idle ended workers leaving =>
    obtain ⟨full, opened, -⟩ := stands.inside underway
    refine .ofOver ended ?_ (stands.same _ workers (leaving ▸ devices _)) (workers ▸ stands.idle idle)
    rw [leaving]
    exact opened.leave
  | other underway underway' idle workers depth gone told =>
    obtain ⟨full, opened, -⟩ := stands.inside underway
    refine .ofUnderway underway' (depth ▸ opened.after told.untouched) (by simp [idle])
      (stands.same _ workers fun _ => told.untouched) fun _ => ?_
    rw [workers]
    by_cases working : p.isWorking = true
    · intro w hw
      simp only [Worker.isUnderway, Worker.isGone_iff.1 (gone working w hw)]
    · exact stands.idle (Bool.of_not_eq_true working)
  | worker working working' at_j workers depth shows =>
    have within := shows.within
    have standing := stands.set _ at_j workers within (shows.stands tellable (stands.crew _ _ at_j))
    obtain ⟨full, opened, all⟩ := stands.inside (isUnderway_of_isWorking working)
    obtain rfl := all working
    have inner (e : Event) (he : e ∈ calls.map Call.event) : e.isOf (.pool i) = false := by
      rcases within e he with rfl | within
      · rfl
      · exact Event.not_isOf_of_isWithin within (Place.not_isWithin_of_level (by simp))
    exact .ofUnderway (isUnderway_of_isWorking working') (depth ▸ opened.call inner) (fun _ => rfl)
      standing fun idle => by simp [working'] at idle
  | @join j w outcome working working' at_j stopped workers depth =>
    have before := stands.crew j w at_j
    have ended : w.isUnderway = false := by simp only [Worker.isUnderway, stopped]
    have worker : (w.at_ .gone).Stands i j events :=
      .ofStopped rfl (by simp [Worker.at_]) (before.ended ended (by simp [stopped])) before.made
    have standing := stands.set [] at_j workers (List.forall_mem_nil _) (by rwa [List.append_nil])
    obtain ⟨full, opened, all⟩ := stands.inside (isUnderway_of_isWorking working)
    rw [List.append_nil] at standing
    rw [List.map_nil, List.append_nil]
    exact .ofUnderway (isUnderway_of_isWorking working') (depth ▸ opened) (fun _ => all working)
      standing fun idle => by simp [working'] at idle

end PoolState

/-! ## Runs -/

namespace RunState

variable {s : RunState W} {quota : Nat} {plans : List PoolPlan} {world : W}

/-- How the calls in the pools of a run stand. -/
structure Stands (s : RunState W) (events : List Event) : Prop where
  pools : ∀ (i : Nat) (p : PoolState W), s.pools[i]? = some p → p.Stands i events
  others : ∀ i, s.pools[i]? = none → Untouched (.pool i) events
  inner : ∀ e ∈ events, e.isOf .run = false

theorem stands_ofPlans : (ofPlans world quota plans).Stands [] where
  pools i p at_i := by
    rw [ofPlans, List.getElem?_map, Option.map_eq_some_iff] at at_i
    obtain ⟨plan, -, rfl⟩ := at_i
    exact {
      ahead _ := Untouched.nil
      inside underway := by cases underway
      ended ended := by cases ended
      crew j w at_j := by
        have phase := PoolState.phase_of_mem_ofPlan (List.mem_of_getElem? at_j)
        exact {
          ahead _ := Untouched.nil
          inside underway := by simp [Worker.isUnderway, phase] at underway
          ended _ begun := absurd phase begun
          made _ _ _ := Untouched.nil.bracketed
          later _ _ _ _ _ := Untouched.nil }
      others _ _ := Untouched.nil
      idle _ w hw := by simp only [Worker.isUnderway, PoolState.phase_of_mem_ofPlan hw] }
  others _ _ := Untouched.nil
  inner := List.forall_mem_nil _

/-- What is called in a step of a run is what the state that it comes to says. -/
theorem Stands.put {setting : Setting W} {i : Nat} {p p' : PoolState W} {c' : Common W}
    (tellable : setting.context.config.run.Tellable) (stands : s.Stands events)
    (at_i : s.pools[i]? = some p) (shows : p.Shows setting i p' calls) :
    (s.put i (p', c')).Stands (events ++ calls.map Call.event) := by
  have within := shows.within
  have apart (k : Nat) (differs : k ≠ i) : Untouched (.pool k) (calls.map Call.event) :=
    untouched_of_apart within (Place.apart_of_level rfl (by simpa using differs.symm))
  refine ⟨fun k q at_k => ?_, fun k none => ?_, fun e he => ?_⟩
  · rcases getElem?_put at_i at_k with ⟨rfl, rfl⟩ | ⟨differs, before⟩
    · exact shows.stands tellable (stands.pools k p at_i)
    · exact (stands.pools k q before).after (apart k differs)
  · have outside : s.pools.length ≤ k := by simpa [RunState.put] using none
    have differs : k ≠ i := by
      have inside := (List.getElem?_eq_some_iff.1 at_i).1
      omega
    exact untouched_append.2 ⟨stands.others k (List.getElem?_eq_none outside), apart k differs⟩
  · rcases List.mem_append.1 he with earlier | now
    · exact stands.inner e earlier
    · rcases within e now with rfl | within
      · rfl
      · exact Event.not_isOf_of_isWithin within (Place.not_isWithin_of_level (by simp))

/-- **When every pool is over nothing is left open.** -/
theorem Stands.bracketed (stands : s.Stands events) (ended : s.isOver = true) {place : Place}
    (inner : place ≠ .run) : Bracketed place events := by
  have overPool {i : Nat} {p : PoolState W} (at_i : s.pools[i]? = some p) : p.isOver = true :=
    List.all_eq_true.1 ended p (List.mem_of_getElem? at_i)
  have idlePool {p : PoolState W} (ended : p.isOver = true) : p.isWorking = false := by
    refine Bool.eq_false_iff.2 fun working => ?_
    simp [PoolState.isOver_eq_false_of_isUnderway (PoolState.isUnderway_of_isWorking working)] at ended
  cases place with
  | run => exact absurd rfl inner
  | pool i =>
    cases at_i : s.pools[i]? with
    | none => exact (stands.others i at_i).bracketed
    | some p => exact (stands.pools i p at_i).ended (overPool at_i)
  | device i j =>
    cases at_i : s.pools[i]? with
    | none =>
      exact ((stands.others i at_i).inside Place.device_isWithin_pool).bracketed
    | some p =>
      have pool := stands.pools i p at_i
      cases at_j : p.workers[j]? with
      | none => exact (pool.others j at_j).bracketed
      | some w =>
        have idle := pool.idle (idlePool (overPool at_i)) w (List.mem_of_getElem? at_j)
        by_cases phase : w.phase = .starting
        · exact ((pool.crew j w at_j).ahead phase).bracketed
        · exact (pool.crew j w at_j).ended idle phase
  | attempt i j n item started =>
    cases at_i : s.pools[i]? with
    | none =>
      have device : Untouched (.device i j) events :=
        (stands.others i at_i).inside Place.device_isWithin_pool
      exact (device.inside Place.attempt_isWithin_device).bracketed
    | some p =>
      have pool := stands.pools i p at_i
      cases at_j : p.workers[j]? with
      | none =>
        exact ((pool.others j at_j).inside Place.attempt_isWithin_device).bracketed
      | some w => exact (pool.crew j w at_j).made n item started

end RunState

end TestFleet
