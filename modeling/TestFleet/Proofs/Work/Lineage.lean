import TestFleet.Proofs.Work.Retry
/-!
# Lineages of retries

A retry goes elsewhere as long as it can. Attempts at one test in one pool follow each other: one fails,
and the item that `retry?` returns is attempted next (`Lineage`). Where retries avoid the device that
failed, what changes from item to item is the set of devices of the pool that may take it. Either the
device that failed leaves the set, or it was the only one and stays (`Standing.retried`). So a device is
used again only when every device that could have taken the first item has failed, and from then on
no other is left.
-/
namespace TestFleet

/-- An attempt at an item: the device it runs on, and its result. -/
structure Trial where
  item : WorkItem
  device : DeviceId
  result : TestResult

namespace Trial

/-- The attempt runs on a device of the pool that may take the item, and its result says so. -/
structure Placed (t : Trial) (pool : DevicePool) : Prop where
  member : t.device ∈ pool.deviceIds
  fits : t.item.compatible t.device = true
  named : t.result.device = t.device

/-- The result of the attempt is no final one: with what is left of some budget, it is answered with
another item. -/
def Yields (t : Trial) (settings : RetrySettings) (pool : DevicePool) (next : WorkItem) : Prop :=
  ∃ budget left, t.item.retry? settings t.result pool budget = some (next, left)

/-- One of the attempts failed on the device. -/
def FailedOn (trials : List Trial) (device : DeviceId) : Prop :=
  ∃ t ∈ trials, t.device = device ∧ t.result.status.isFailure = true

end Trial

/-- The attempts that begin with an item, each but the first at the item the one before it yields. After
the last one there may be such an item too, not attempted. -/
inductive Lineage (settings : RetrySettings) (pool : DevicePool) : WorkItem → List Trial → Prop
  | untried (item : WorkItem) : Lineage settings pool item []
  | final {t : Trial} (placed : t.Placed pool) : Lineage settings pool t.item [t]
  | retried {t : Trial} {next : WorkItem} {rest : List Trial} (placed : t.Placed pool)
      (yields : t.Yields settings pool next) (line : Lineage settings pool next rest) :
      Lineage settings pool t.item (t :: rest)

namespace WorkItem

variable {item : WorkItem} {settings : RetrySettings} {pool : DevicePool} {d failed : DeviceId}

theorem compatible_successorExcluding_iff :
    (item.successorExcluding failed).compatible d = true ↔ item.compatible d = true ∧ d ≠ failed := by
  rw [compatible_iff, compatible_iff]
  simp only [successorExcluding, successor, excluding, mem_addDevices, List.mem_singleton]
  tauto

theorem excluded_subset_nextAttempt :
    item.excluded ⊆ (item.nextAttempt settings failed pool).excluded := by
  unfold nextAttempt
  dsimp only
  split
  · exact fun e he => mem_addDevices.2 (.inl he)
  · exact fun e he => he

/-- Where retries avoid failed devices, the device that failed is closed to the next attempt, unless it
was the only one of the pool that may take the item. -/
theorem nextAttempt_narrows_or_stays (item : WorkItem) (failed : DeviceId) (pool : DevicePool)
    (avoid : settings.avoidFailedDevice = true) :
    (∀ e, (item.nextAttempt settings failed pool).compatible e = true ↔
        item.compatible e = true ∧ e ≠ failed) ∨
      ((∀ e, (item.nextAttempt settings failed pool).compatible e = item.compatible e) ∧
        ∀ e ∈ pool.deviceIds, item.compatible e = true → e = failed) := by
  unfold nextAttempt
  simp only [avoid, Bool.true_and]
  split
  · exact .inl fun e => compatible_successorExcluding_iff
  · rename_i nowhere
    refine .inr ⟨fun e => compatible_successor item e, fun e he fits => ?_⟩
    by_contra other
    exact nowhere (List.any_eq_true.2 ⟨e, he, compatible_successorExcluding_iff.2 ⟨fits, other⟩⟩)

/-- The next attempt at an item that ran on a device of the pool is for some device of the pool. -/
theorem compatibleIn_nextAttempt (member : failed ∈ pool.deviceIds)
    (fits : item.compatible failed = true) :
    (item.nextAttempt settings failed pool).compatibleIn pool = true := by
  unfold nextAttempt
  dsimp only
  split
  · rename_i elsewhere
    exact (Bool.and_eq_true_iff.1 elsewhere).2
  · exact List.any_eq_true.2 ⟨failed, member, fits⟩

end WorkItem

namespace Trial

variable {t : Trial} {trials : List Trial} {settings : RetrySettings} {pool : DevicePool}
  {next : WorkItem} {d : DeviceId}

theorem Yields.eq_nextAttempt (yields : t.Yields settings pool next) (placed : t.Placed pool) :
    next = t.item.nextAttempt settings t.device pool := by
  obtain ⟨budget, left, granted⟩ := yields
  rw [(WorkItem.retry?_eq_some_iff.1 granted).2.2, placed.named]

theorem Yields.failed (yields : t.Yields settings pool next) : t.result.status.isFailure = true := by
  obtain ⟨budget, left, granted⟩ := yields
  exact (WorkItem.mayRetry_iff.1 (WorkItem.retry?_eq_some_iff.1 granted).1).1

theorem failedOn_snoc (failed : t.result.status.isFailure = true) :
    FailedOn (trials ++ [t]) d ↔ FailedOn trials d ∨ d = t.device := by
  constructor
  · rintro ⟨u, hu, rfl, bad⟩
    rcases List.mem_append.1 hu with before | last
    · exact .inl ⟨u, before, rfl, bad⟩
    · exact .inr (by rw [List.mem_singleton.1 last])
  · rintro (⟨u, hu, rfl, bad⟩ | rfl)
    · exact ⟨u, List.mem_append_left _ hu, rfl, bad⟩
    · exact ⟨t, by simp, rfl, failed⟩

end Trial

namespace Lineage

variable {settings : RetrySettings} {pool : DevicePool} {first item next : WorkItem} {d : DeviceId}
  {t : Trial} {past trials rest earlier later : List Trial}

/-- Of the devices of a pool, none but `d` may take the item. -/
def OnlyFor (pool : DevicePool) (item : WorkItem) (d : DeviceId) : Prop :=
  ∀ e ∈ pool.deviceIds, item.compatible e = true → e = d

/-- How an item stands after the attempts that failed before it. -/
structure Standing (pool : DevicePool) (first : WorkItem) (past : List Trial) (item : WorkItem) :
    Prop where
  /-- A device that is closed to the item, but was not to the first, has failed. -/
  covered : ∀ e ∈ pool.deviceIds, first.compatible e = true →
    item.compatible e = true ∨ Trial.FailedOn past e
  /-- A device that has failed is open to the item only if no other is. -/
  fresh : ∀ e ∈ pool.deviceIds, item.compatible e = true → Trial.FailedOn past e →
    OnlyFor pool item e

theorem Standing.new : Standing pool first [] first where
  covered _ _ fits := .inl fits
  fresh _ _ _ failed := by obtain ⟨t, ht, -⟩ := failed; cases ht

/-- An attempt that is retried leaves the next item standing as it stood. -/
theorem Standing.retried (standing : Standing pool first past t.item)
    (avoid : settings.avoidFailedDevice = true) (placed : t.Placed pool)
    (yields : t.Yields settings pool next) : Standing pool first (past ++ [t]) next := by
  obtain rfl := yields.eq_nextAttempt placed
  have failed := yields.failed
  rcases t.item.nextAttempt_narrows_or_stays t.device pool avoid with narrows | ⟨stays, only⟩
  · constructor
    · intro e he fits
      rw [narrows, Trial.failedOn_snoc failed]
      by_cases same : e = t.device
      · exact .inr (.inr same)
      · exact (standing.covered e he fits).imp (⟨·, same⟩) .inl
    · intro e he fits again
      -- The device that failed just now is closed, so it is an earlier failure that counts.
      obtain ⟨fits, other⟩ := (narrows e).1 fits
      have before := ((Trial.failedOn_snoc failed).1 again).resolve_right other
      exact fun x hx left => standing.fresh e he fits before x hx ((narrows x).1 left).1
  · constructor
    · intro e he fits
      rw [stays, Trial.failedOn_snoc failed]
      exact (standing.covered e he fits).imp_right .inl
    · intro e he fits _ x hx left
      rw [stays] at fits left
      rw [only e he fits, only x hx left]

/-- Once one device is left, all attempts run on it. -/
theorem device_eq_of_onlyFor (line : Lineage settings pool item trials)
    (only : OnlyFor pool item d) : ∀ t ∈ trials, t.device = d := by
  induction line with
  | untried item => simp
  | final placed =>
    rename_i t
    rw [List.forall_mem_singleton]
    exact only t.device placed.member placed.fits
  | retried placed yields line ih =>
    rename_i t next rest
    rw [List.forall_mem_cons]
    refine ⟨only t.device placed.member placed.fits, ih fun e he fits => only e he ?_⟩
    rw [yields.eq_nextAttempt placed] at fits
    exact WorkItem.compatible_of_compatible_nextAttempt fits

theorem placed_head (line : Lineage settings pool item (t :: rest)) :
    item = t.item ∧ t.Placed pool := by
  cases line with
  | final placed => exact ⟨rfl, placed⟩
  | retried placed _ _ => exact ⟨rfl, placed⟩

/-- If an attempt runs on a device that has failed, all that could take the first item have. -/
theorem Standing.reuse (standing : Standing pool first past item)
    (line : Lineage settings pool item (t :: later)) (again : Trial.FailedOn past t.device) :
    (∀ d ∈ pool.deviceIds, first.compatible d = true → Trial.FailedOn past d) ∧
      ∀ u ∈ later, u.device = t.device := by
  obtain ⟨rfl, placed⟩ := line.placed_head
  have only := standing.fresh t.device placed.member placed.fits again
  constructor
  · intro d hd fits
    rcases standing.covered d hd fits with left | failed
    · rwa [only d hd left]
    · exact failed
  · exact fun u hu => line.device_eq_of_onlyFor only u (List.mem_cons_of_mem _ hu)

/-- After any part of a lineage the item that is attempted next stands on that part. -/
theorem Standing.advance (standing : Standing pool first past item)
    (avoid : settings.avoidFailedDevice = true)
    (line : Lineage settings pool item (earlier ++ t :: later)) :
    Standing pool first (past ++ earlier) t.item ∧
      Lineage settings pool t.item (t :: later) := by
  induction earlier generalizing past item with
  | nil =>
    obtain ⟨rfl, -⟩ := line.placed_head
    exact ⟨by simpa using standing, line⟩
  | cons u earlier ih =>
    rw [List.cons_append] at line
    generalize there : earlier ++ t :: later = rest at line
    cases line with
    | final placed => simp at there
    | retried placed yields line =>
      subst there
      have := ih (standing.retried avoid placed yields) line
      rwa [List.append_assoc] at this

theorem excluded_subset (line : Lineage settings pool item trials) :
    ∀ t ∈ trials, item.excluded ⊆ t.item.excluded := by
  induction line with
  | untried item => simp
  | final placed => simp
  | retried placed yields line ih =>
    rename_i t next rest
    have wider : t.item.excluded ⊆ next.excluded := by
      rw [yields.eq_nextAttempt placed]
      exact WorkItem.excluded_subset_nextAttempt
    rw [List.forall_mem_cons]
    exact ⟨fun e he => he, fun u hu e he => ih u hu (wider he)⟩

theorem placed_of_mem (line : Lineage settings pool item trials) : ∀ t ∈ trials, t.Placed pool := by
  induction line with
  | untried item => simp
  | final placed => simpa using placed
  | retried placed yields line ih => simpa using ⟨placed, ih⟩

theorem pairwise_excluded_subset (line : Lineage settings pool item trials) :
    trials.Pairwise fun t u => t.item.excluded ⊆ u.item.excluded := by
  induction line with
  | untried item => exact .nil
  | final placed => simp
  | retried placed yields line ih =>
    rename_i t next rest
    refine List.pairwise_cons.2 ⟨fun u hu => ?_, ih⟩
    have all := (Lineage.retried placed yields line).excluded_subset
    exact all u (List.mem_cons_of_mem _ hu)

/-- Retries avoid failed devices as long as possible. Every item that follows an attempt is for some
device of the pool and excludes what was excluded before. An attempt on a device that failed in
an earlier one is made only after every device of the pool that may take the first item has failed, and
all attempts after it are made on that device. -/
theorem retries_avoid_failed_devices (avoid : settings.avoidFailedDevice = true)
    (line : Lineage settings pool first trials) :
    (∀ t ∈ trials, ∀ next, t.Yields settings pool next →
        next.compatibleIn pool = true ∧ t.item.excluded ⊆ next.excluded) ∧
      trials.Pairwise (fun t u => t.item.excluded ⊆ u.item.excluded) ∧
      ∀ earlier t later, trials = earlier ++ t :: later → Trial.FailedOn earlier t.device →
        (∀ d ∈ pool.deviceIds, first.compatible d = true → Trial.FailedOn earlier d) ∧
          ∀ u ∈ later, u.device = t.device := by
  refine ⟨fun t ht next yields => ?_, line.pairwise_excluded_subset, ?_⟩
  · have placed := line.placed_of_mem t ht
    obtain rfl := yields.eq_nextAttempt placed
    exact ⟨WorkItem.compatibleIn_nextAttempt placed.member placed.fits,
      WorkItem.excluded_subset_nextAttempt⟩
  · rintro earlier t later rfl again
    obtain ⟨standing, rest⟩ := Standing.new.advance avoid line
    exact standing.reuse rest again

end Lineage

namespace Sample

/-- A pool of three devices. -/
def trio : DevicePool := ⟨⟨"trio"⟩, ["a", "b", "c"].map .bare⟩

/-- A test that may not run on `c`. -/
def unwelcome : WorkItem := (WorkItem.ofTest default).excluding [⟨"c"⟩]

/-- An attempt that fails on a device of the trio. -/
def failure (item : WorkItem) (serial : String) : Trial :=
  ⟨item, ⟨serial⟩, .ofStatus ⟨trio.id, ⟨serial⟩, item.test⟩ .fail default⟩

/-- Attempts that fail, at an item and the items after it. -/
def failures (item : WorkItem) : List String → List Trial
  | [] => []
  | serial :: rest =>
    failure item serial :: failures (item.nextAttempt {} ⟨serial⟩ trio) rest

theorem lineage_unwelcome : Lineage {} trio unwelcome (failures unwelcome ["a", "b", "b", "b"]) := by
  have yields (x : WorkItem) (serial : String) (few : x.failures < 3) :
      (failure x serial).Yields {} trio (x.nextAttempt {} ⟨serial⟩ trio) :=
    ⟨.ofTotal 1, ⟨1, 0, by decide⟩,
      WorkItem.retry?_eq_some_iff.2 ⟨WorkItem.mayRetry_iff.2 ⟨rfl, few⟩, rfl, rfl⟩⟩
  refine .retried (t := failure _ "a") ⟨?_, ?_, rfl⟩ (yields _ _ ?_) ?_
  iterate 3 decide
  refine .retried (t := failure _ "b") ⟨?_, ?_, rfl⟩ (yields _ _ ?_) ?_
  iterate 3 decide
  refine .retried (t := failure _ "b") ⟨?_, ?_, rfl⟩ (yields _ _ ?_) ?_
  iterate 3 decide
  exact .final (t := failure _ "b") ⟨by decide, by decide, rfl⟩

end Sample

open Sample in
/-- `b` is used again after `a` and `b` have failed, and then to the end. -/
theorem reuse_of_unwelcome :
    (∀ d ∈ trio.deviceIds, unwelcome.compatible d = true →
        Trial.FailedOn (failures unwelcome ["a", "b"]) d) ∧
      ∀ u ∈ (failures unwelcome ["a", "b", "b", "b"]).drop 3, u.device = ⟨"b"⟩ := by
  have all := Lineage.retries_avoid_failed_devices rfl lineage_unwelcome
  exact all.2.2 (failures unwelcome ["a", "b"]) _ _ rfl ⟨_, .tail _ (.head _), rfl, rfl⟩

end TestFleet
