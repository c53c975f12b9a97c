import TestFleet.Proofs.Work.Queue
import TestFleet.Work.Board
/-!
# What a board conserves

A ledger is a board with a record of what went into it and came out of it. However items are
polled, offered, released and drained, the record balances: what was put in is queued, was handed
out or was drained, and what was handed out is held or was released. `Balanced.step` keeps the
balance over one move and `balanced_play` over any sequence of moves.
-/
namespace TestFleet

open WorkItem (Distinct)

/-- What can be done to a board. -/
inductive BoardMove where
  /-- A device asks for an item. -/
  | poll (device : DeviceId)
  | offer (item : WorkItem)
  /-- A task is given back, however its work ended. -/
  | release (number : Nat)
  | drain
  deriving DecidableEq, Repr, Inhabited

/-- A board, and the items that passed through it. -/
structure Ledger where
  board : Board
  /-- The offers that were accepted. -/
  offered : List WorkItem
  /-- The items of all tasks handed out so far. -/
  handedOut : List WorkItem
  /-- The items of the tasks given back. -/
  released : List WorkItem
  drained : List WorkItem
  deriving Inhabited

namespace Ledger

/-- The ledger of a new board. -/
def ofItems (items : List WorkItem) : Ledger := ⟨.ofItems items, [], [], [], []⟩

/-- A device asks for an item; if there is none for it, nothing changes. -/
def poll (l : Ledger) (device : DeviceId) : Ledger :=
  match l.board.poll? device with
  | some (_, item, board) => { l with board, handedOut := l.handedOut ++ [item] }
  | none => l

/-- An item is offered; if it is refused, nothing changes. -/
def offer (l : Ledger) (item : WorkItem) : Ledger :=
  match l.board.offer item with
  | .ok board => { l with board, offered := l.offered ++ [item] }
  | .error _ => l

/-- A task is given back; if it is not held, nothing changes. -/
def release (l : Ledger) (number : Nat) : Ledger :=
  match l.board.release? number with
  | some board => { l with board, released := l.released ++ (l.board.task? number).toList }
  | none => l

/-- All items that wait are taken out. -/
def drain (l : Ledger) : Ledger :=
  let (items, board) := l.board.drain
  { l with board, drained := l.drained ++ items }

/-- One move. -/
def step (l : Ledger) : BoardMove → Ledger
  | .poll device => l.poll device
  | .offer item => l.offer item
  | .release number => l.release number
  | .drain => l.drain

/-- Several moves. -/
def play (l : Ledger) (moves : List BoardMove) : Ledger := moves.foldl step l

/-- The record agrees with the board. -/
structure Balanced (initial : List WorkItem) (l : Ledger) : Prop where
  distinct : Distinct l.board.queue.items
  inFlight : l.board.queue.inFlight = l.board.held.length
  numbers : (l.board.held.map Prod.fst).Nodup
  below : ∀ task ∈ l.board.held, task.1 < l.board.count
  tasks : l.handedOut.Perm (l.board.held.map Prod.snd ++ l.released)
  items : (WorkQueue.firsts initial ++ l.offered).Perm
    (l.board.queue.items ++ l.handedOut ++ l.drained)
  order : l.board.queue.items.Sublist (WorkQueue.firsts initial ++ l.offered)

end Ledger

namespace Board

variable {b b' : Board} {item : WorkItem} {d : DeviceId} {number : Nat}

/-- A poll claims an item from the queue, and its task takes the next number. -/
theorem poll?_eq_some_iff :
    b.poll? d = some (number, item, b') ↔
      ∃ queue, b.queue.claim? d = some (item, queue) ∧ number = b.count ∧
        b' = ⟨queue, b.held ++ [(b.count, item)], b.count + 1⟩ := by
  rw [poll?, Option.map_eq_some_iff]
  constructor
  · rintro ⟨⟨a, queue⟩, claimed, pair⟩
    cases pair
    exact ⟨queue, claimed, rfl, rfl⟩
  · rintro ⟨queue, claimed, rfl, rfl⟩
    exact ⟨(item, queue), claimed, rfl⟩

theorem poll?_eq_none_iff : b.poll? d = none ↔ ∀ x ∈ b.queue.items, x.compatible d = false := by
  rw [poll?, Option.map_eq_none_iff, WorkQueue.claim?_eq_none_iff]

/-- What a poll gives: a task for the first waiting item that the device may run, all others keeping
their order, or nothing if there is no such item. -/
theorem poll?_spec (b : Board) (d : DeviceId) :
    match b.poll? d with
    | none => ∀ x ∈ b.queue.items, x.compatible d = false
    | some (number, item, after) =>
      (∃ ahead behind, b.queue.items = ahead ++ item :: behind ∧
        after.queue.items = ahead ++ behind ∧ item.compatible d = true ∧
        ∀ x ∈ ahead, x.compatible d = false) ∧
      after.queue.inFlight = b.queue.inFlight + 1 ∧ after.held = b.held ++ [(number, item)] := by
  split
  · rename_i nothing
    exact poll?_eq_none_iff.1 nothing
  · rename_i polled
    obtain ⟨queue, claimed, rfl, rfl⟩ := poll?_eq_some_iff.1 polled
    obtain ⟨ahead, behind, items, rfl, fits, none_ahead⟩ := WorkQueue.claim?_eq_some_iff.1 claimed
    exact ⟨⟨ahead, behind, items, rfl, fits, none_ahead⟩, rfl, rfl⟩

theorem offer_eq_ok_iff :
    b.offer item = .ok b' ↔
      b.queue.inFlight ≠ 0 ∧ item.key ∉ b.queue.items.map WorkItem.key ∧
        b' = { b with queue := ⟨b.queue.items ++ [item], b.queue.inFlight⟩ } := by
  unfold offer
  cases h : b.queue.offer item with
  | error e =>
    have refused : ¬ ∃ queue, b.queue.offer item = .ok queue := by simp [h]
    simp only [WorkQueue.offer_eq_ok_iff] at refused
    simp only [Except.map, reduceCtorEq, false_iff]
    rintro ⟨busy, fresh, -⟩
    exact refused ⟨_, busy, fresh, rfl⟩
  | ok queue =>
    obtain ⟨busy, fresh, rfl⟩ := WorkQueue.offer_eq_ok_iff.1 h
    simp [Except.map, busy, fresh, eq_comm]

/-- Giving a task back takes it from those held, and one from the count of the queue. -/
theorem release?_eq_some_iff :
    b.release? number = some b' ↔
      ∃ item queue, b.task? number = some item ∧ b.queue.release? = some queue ∧
        b' = ⟨queue, b.held.filter (·.1 != number), b.count⟩ := by
  unfold release?
  simp only [Option.bind_eq_some_iff, Option.map_eq_some_iff, exists_and_left, @eq_comm _ b']

/-- Only a task that is held can be given back. -/
theorem release?_of_unheld (unheld : b.task? number = none) : b.release? number = none := by
  rw [release?, unheld, Option.bind_none]

/-- A task that is held stands once among those held. -/
theorem held_perm_of_task? (numbers : (b.held.map Prod.fst).Nodup)
    (h : b.task? number = some item) :
    b.held.Perm ((number, item) :: b.held.filter (·.1 != number)) := by
  unfold task? at h
  generalize b.held = held at numbers h ⊢
  induction held with
  | nil => simp at h
  | cons task rest ih =>
    obtain ⟨n, x⟩ := task
    rw [List.map_cons, List.nodup_cons] at numbers
    by_cases same : number = n
    · subst same
      simp only [List.lookup_cons, beq_self_eq_true, Option.some.injEq] at h
      have others : rest.filter (·.1 != number) = rest := by
        rw [List.filter_eq_self]
        intro task member
        have apart : task.1 ≠ number := fun e => numbers.1 (List.mem_map.2 ⟨task, member, e⟩)
        simpa using apart
      simp [h, others]
    · have later : rest.lookup number = some item := by
        simpa [List.lookup_cons, beq_false_of_ne same] using h
      have kept : ((n, x) :: rest).filter (·.1 != number) = (n, x) :: rest.filter (·.1 != number) := by
        simp [Ne.symm same]
      rw [kept]
      exact ((ih numbers.2 later).cons _).trans (.swap _ _ _)

end Board

namespace Ledger

variable {initial : List WorkItem} {l : Ledger}

theorem balanced_ofItems (initial : List WorkItem) : Balanced initial (ofItems initial) where
  distinct := WorkQueue.distinct_firsts initial
  inFlight := rfl
  numbers := by simp [ofItems, Board.ofItems]
  below := by simp [ofItems, Board.ofItems]
  tasks := by simp [ofItems, Board.ofItems]
  items := by simp [ofItems, Board.ofItems, WorkQueue.ofItems]
  order := by simp [ofItems, Board.ofItems, WorkQueue.ofItems]

theorem Balanced.poll (h : Balanced initial l) (d : DeviceId) : Balanced initial (l.poll d) := by
  unfold Ledger.poll
  split
  · rename_i number item board polled
    obtain ⟨queue, claimed, -, rfl⟩ := Board.poll?_eq_some_iff.1 polled
    have perm := WorkQueue.perm_of_claim? claimed
    have sub := WorkQueue.sublist_of_claim? claimed
    obtain ⟨ahead, behind, -, rfl, -⟩ := WorkQueue.claim?_eq_some_iff.1 claimed
    constructor
    case distinct => exact h.distinct.sublist sub
    case inFlight => simp [h.inFlight]
    case numbers =>
      rw [List.map_append, List.nodup_append]
      refine ⟨h.numbers, by simp, ?_⟩
      intro n hn m hm
      obtain ⟨task, member, rfl⟩ := List.mem_map.1 hn
      have less := h.below task member
      simp only [List.map_cons, List.map_nil, List.mem_singleton] at hm
      omega
    case below =>
      intro task member
      rcases List.mem_append.1 member with member | member
      · exact Nat.lt_succ_of_lt (h.below task member)
      · simp_all
    case tasks =>
      refine List.perm_iff_count.2 fun x => ?_
      have before := h.tasks.count_eq x
      simp only [List.count_append, List.map_append, List.map_cons, List.map_nil] at before ⊢
      omega
    case items =>
      refine List.perm_iff_count.2 fun x => ?_
      have before := h.items.count_eq x
      have moved := perm.count_eq x
      simp only [List.count_append, List.count_cons, List.count_nil] at before moved ⊢
      omega
    case order => exact sub.trans h.order
  · exact h

theorem Balanced.offer (h : Balanced initial l) (item : WorkItem) :
    Balanced initial (l.offer item) := by
  unfold Ledger.offer
  split
  · rename_i board accepted
    obtain ⟨-, fresh, rfl⟩ := Board.offer_eq_ok_iff.1 accepted
    constructor
    case distinct =>
      refine WorkItem.distinct_append.2 ⟨h.distinct, by simp [Distinct], ?_⟩
      intro x hx y hy same
      obtain rfl := List.mem_singleton.1 hy
      exact fresh (List.mem_map.2 ⟨x, hx, same⟩)
    case inFlight => exact h.inFlight
    case numbers => exact h.numbers
    case below => exact h.below
    case tasks => exact h.tasks
    case items =>
      refine List.perm_iff_count.2 fun x => ?_
      have before := h.items.count_eq x
      simp only [List.count_append] at before ⊢
      omega
    case order =>
      rw [← List.append_assoc]
      exact h.order.append_right [item]
  · exact h

theorem Balanced.release (h : Balanced initial l) (number : Nat) :
    Balanced initial (l.release number) := by
  unfold Ledger.release
  split
  · rename_i board released
    obtain ⟨item, queue, task, fewer, rfl⟩ := Board.release?_eq_some_iff.1 released
    obtain ⟨fewer, same⟩ := WorkQueue.release?_eq_some_iff.1 fewer
    have perm := Board.held_perm_of_task? h.numbers task
    constructor
    case distinct =>
      dsimp only
      rw [same]
      exact h.distinct
    case inFlight =>
      have length := perm.length_eq
      rw [← h.inFlight, fewer, List.length_cons] at length
      exact Nat.succ.inj length
    case numbers => exact h.numbers.sublist (List.filter_sublist.map _)
    case below => exact fun task member => h.below task (List.mem_of_mem_filter member)
    case tasks =>
      refine List.perm_iff_count.2 fun x => ?_
      have before := h.tasks.count_eq x
      have moved := (perm.map Prod.snd).count_eq x
      simp only [task, Option.toList_some, List.count_append, List.map_cons, List.count_cons,
        List.count_nil] at before moved ⊢
      omega
    case items =>
      dsimp only
      rw [same]
      exact h.items
    case order =>
      dsimp only
      rw [same]
      exact h.order
  · exact h

theorem Balanced.drain (h : Balanced initial l) : Balanced initial l.drain where
  distinct := by simp [Ledger.drain, Board.drain, WorkQueue.drain, Distinct]
  inFlight := h.inFlight
  numbers := h.numbers
  below := h.below
  tasks := h.tasks
  items := by
    refine List.perm_iff_count.2 fun x => ?_
    have before := h.items.count_eq x
    simp only [Ledger.drain, Board.drain, WorkQueue.drain, List.count_append, List.count_nil]
      at before ⊢
    omega
  order := List.nil_sublist _

theorem Balanced.step (h : Balanced initial l) (move : BoardMove) :
    Balanced initial (l.step move) := by
  cases move with
  | poll device => exact h.poll device
  | offer item => exact h.offer item
  | release number => exact h.release number
  | drain => exact h.drain

/-- The record balances after any moves. -/
theorem balanced_play (initial : List WorkItem) (moves : List BoardMove) :
    Balanced initial ((ofItems initial).play moves) := by
  have any : ∀ l, Balanced initial l → Balanced initial (l.play moves) := by
    induction moves with
    | nil => exact fun l h => h
    | cons move rest ih => exact fun l h => ih _ (h.step move)
  exact any _ (balanced_ofItems initial)

/-- To give back a task that is held takes it from those held, and one from the count of the queue. -/
theorem Balanced.release?_eq_some (h : Balanced initial l) {number : Nat} {item : WorkItem}
    (task : l.board.task? number = some item) :
    ∃ rest, l.board.queue.inFlight = rest + 1 ∧
      l.board.release? number =
        some ⟨⟨l.board.queue.items, rest⟩, l.board.held.filter (·.1 != number), l.board.count⟩ := by
  have length := (Board.held_perm_of_task? h.numbers task).length_eq
  rw [← h.inFlight, List.length_cons] at length
  have released : l.board.queue.release? = some ⟨l.board.queue.items, _⟩ :=
    WorkQueue.release?_eq_some_iff.2 ⟨length, rfl⟩
  exact ⟨_, length, Board.release?_eq_some_iff.2 ⟨item, _, task, released, rfl⟩⟩

/-! ## What the moves do -/

/-- A poll notes the item that it hands out, and changes nothing if there is none. -/
theorem step_poll (l : Ledger) (d : DeviceId) :
    l.step (.poll d) =
      match l.board.poll? d with
      | none => l
      | some (_, item, after) => { l with board := after, handedOut := l.handedOut ++ [item] } := by
  change l.poll d = _
  unfold Ledger.poll
  cases l.board.poll? d <;> rfl

/-- What becomes of an offer: it is refused while no task is held, or while an item of the same test
waits, and then nothing changes; else the item waits behind all others. -/
theorem Balanced.step_offer (h : Balanced initial l) (item : WorkItem) :
    match l.board.queue.offer item with
    | .ok queue =>
      l.board.held ≠ [] ∧ (∀ x ∈ l.board.queue.items, x.key ≠ item.key) ∧
        queue = ⟨l.board.queue.items ++ [item], l.board.queue.inFlight⟩ ∧
        l.step (.offer item) =
          { l with board := { l.board with queue }, offered := l.offered ++ [item] }
    | .error (.notInFlight _) => l.board.held = [] ∧ l.step (.offer item) = l
    | .error (.duplicate _) =>
      l.board.held ≠ [] ∧ (∃ x ∈ l.board.queue.items, x.key = item.key) ∧
        l.step (.offer item) = l := by
  have idle : l.board.queue.inFlight = 0 ↔ l.board.held = [] := by
    rw [h.inFlight, List.length_eq_zero_iff]
  have refused {e : OfferError} (offered : l.board.queue.offer item = .error e) :
      l.step (.offer item) = l := by
    simp only [Ledger.step, Ledger.offer, Board.offer, offered, Except.map]
  split
  · rename_i queue offered
    obtain ⟨busy, fresh, rfl⟩ := WorkQueue.offer_eq_ok_iff.1 offered
    refine ⟨mt idle.2 busy, by simpa [eq_comm] using fresh, rfl, ?_⟩
    simp only [Ledger.step, Ledger.offer, Board.offer, offered, Except.map]
  · rename_i text offered
    exact ⟨idle.1 (WorkQueue.offer_eq_notInFlight_iff.1 offered).1, refused offered⟩
  · rename_i text offered
    obtain ⟨busy, waits, -⟩ := WorkQueue.offer_eq_duplicate_iff.1 offered
    exact ⟨mt idle.2 busy, List.mem_map.1 waits, refused offered⟩

/-- A task that is held is given back: it is no longer held, its item is released, and one item less
is in flight. -/
theorem Balanced.step_release (h : Balanced initial l) {number : Nat} {item : WorkItem}
    (task : l.board.task? number = some item) :
    ∃ rest held, l.board.queue.inFlight = rest + 1 ∧ l.board.held.Perm ((number, item) :: held) ∧
      l.step (.release number) =
        { l with
          board := ⟨⟨l.board.queue.items, rest⟩, held, l.board.count⟩
          released := l.released ++ [item] } := by
  obtain ⟨rest, busy, released⟩ := h.release?_eq_some task
  refine ⟨rest, _, busy, Board.held_perm_of_task? h.numbers task, ?_⟩
  simp only [Ledger.step, Ledger.release, released, task, Option.toList_some]

/-- A task that is not held cannot be given back. -/
theorem step_release_of_unheld {number : Nat} (unheld : l.board.task? number = none) :
    l.step (.release number) = l := by
  simp only [Ledger.step, Ledger.release, Board.release?_of_unheld unheld]

/-- **Conservation and order.** Whatever is polled, offered, released and drained, and in whatever
order: the waiting items are of different tests; the count of items in flight is the number of
tasks held, and to release a task that is held takes it from these, adds its item to those released
and lowers the count, while any other release does nothing; the items that were put in are those that
wait, were handed out or were drained; the waiting items stand in the order in which they were put in,
and a poll hands out the first that the device may run; an offer is refused just while no task is held
or an item of its test waits, and a refused offer changes nothing. -/
theorem queue_conserved (initial : List WorkItem) (moves : List BoardMove) :
    let l := (Ledger.ofItems initial).play moves
    let waiting := l.board.queue.items
    let enqueued := WorkQueue.firsts initial ++ l.offered
    Distinct waiting ∧
    (l.board.queue.inFlight = l.board.held.length ∧
      ∀ number,
        match l.board.task? number with
        | none => l.step (.release number) = l
        | some item =>
          ∃ rest held, l.board.queue.inFlight = rest + 1 ∧
            l.board.held.Perm ((number, item) :: held) ∧
            l.step (.release number) =
              { l with
                board := ⟨⟨waiting, rest⟩, held, l.board.count⟩
                released := l.released ++ [item] }) ∧
    (enqueued.Perm (waiting ++ l.handedOut ++ l.drained) ∧
      l.handedOut.Perm (l.board.held.map Prod.snd ++ l.released) ∧
      l.step .drain =
        { l with
          board := { l.board with queue := ⟨[], l.board.queue.inFlight⟩ }
          drained := l.drained ++ waiting }) ∧
    (waiting.Sublist enqueued ∧
      ∀ d,
        match l.board.poll? d with
        | none => (∀ x ∈ waiting, x.compatible d = false) ∧ l.step (.poll d) = l
        | some (number, item, after) =>
          ((∃ ahead behind, waiting = ahead ++ item :: behind ∧
              after.queue.items = ahead ++ behind ∧ item.compatible d = true ∧
              ∀ x ∈ ahead, x.compatible d = false) ∧
            after.queue.inFlight = l.board.queue.inFlight + 1 ∧
            after.held = l.board.held ++ [(number, item)]) ∧
          l.step (.poll d) = { l with board := after, handedOut := l.handedOut ++ [item] }) ∧
    ∀ item,
      match l.board.queue.offer item with
      | .ok queue =>
        l.board.held ≠ [] ∧ (∀ x ∈ waiting, x.key ≠ item.key) ∧
          queue = ⟨waiting ++ [item], l.board.queue.inFlight⟩ ∧
          l.step (.offer item) =
            { l with board := { l.board with queue }, offered := l.offered ++ [item] }
      | .error (.notInFlight _) => l.board.held = [] ∧ l.step (.offer item) = l
      | .error (.duplicate _) =>
        l.board.held ≠ [] ∧ (∃ x ∈ waiting, x.key = item.key) ∧ l.step (.offer item) = l := by
  intro l waiting enqueued
  have balanced : Balanced initial l := balanced_play initial moves
  refine ⟨balanced.distinct, ⟨balanced.inFlight, fun number => ?_⟩,
    ⟨balanced.items, balanced.tasks, rfl⟩, ⟨balanced.order, fun d => ?_⟩, balanced.step_offer⟩
  · split
    · exact step_release_of_unheld ‹_›
    · exact balanced.step_release ‹_›
  · have given := l.board.poll?_spec d
    have noted := l.step_poll d
    cases polled : l.board.poll? d with
    | none =>
      rw [polled] at given noted
      exact ⟨given, noted⟩
    | some task =>
      rw [polled] at given noted
      exact ⟨given, noted⟩

end Ledger

end TestFleet
