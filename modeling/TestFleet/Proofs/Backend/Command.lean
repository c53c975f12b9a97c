import Mathlib.Data.List.Forall2
import TestFleet.Backend.Command
import TestFleet.Proofs.Rule.Preserving
/-!
# How a command tells the status of an attempt

What a command writes is read line by line (`readAs_iff`). By the table of outcomes, the last line
that reports a status decides, and without one the end of the command does (`Tabled`). This is how
it is, except that a marked line that names no status hides the reports before it (`Drowned`): then
the end of the command decides (`settles_statusFor`, `status_of_attempt`).
-/
namespace TestFleet

open Files (Octets)

/-- A list without the separator is one piece. -/
theorem Text.pieces_of_notMem {α : Type} [BEq α] [LawfulBEq α] {sep : α} {xs : List α}
    (absent : sep ∉ xs) : Text.pieces (· == sep) xs = [xs] := by
  refine Text.pieces_of_forall_not fun x among => beq_eq_false_iff_ne.2 ?_
  rintro rfl
  exact absent among

/-- A beginning is dropped just if the list begins so. -/
theorem Text.dropLeading?_eq_some_iff {α : Type} [BEq α] [LawfulBEq α] {start whole rest : List α} :
    Text.dropLeading? start whole = some rest ↔ whole = start ++ rest := by
  induction start generalizing whole with
  | nil => simp [Text.dropLeading?]
  | cons a start ih =>
    cases whole with
    | nil => simp [Text.dropLeading?]
    | cons b whole =>
      unfold Text.dropLeading?
      by_cases same : a = b
      · subst same
        simp [ih]
      · simp [same, Ne.symm same]

/-- What is found from the end of a list is what the last element gives that gives anything. -/
theorem findSome?_reverse_eq_some_iff {α β : Type} {f : α → Option β} {xs : List α} {y : β} :
    xs.reverse.findSome? f = some y ↔
      ∃ before x after, xs = before ++ x :: after ∧ f x = some y ∧ ∀ z ∈ after, f z = none := by
  rw [List.findSome?_eq_some_iff]
  constructor
  · rintro ⟨after, x, before, whole, found, last⟩
    refine ⟨before.reverse, x, after.reverse, ?_, found, ?_⟩
    · rw [← List.reverse_reverse xs, whole]
      simp
    · intro z among
      exact last z (List.mem_reverse.1 among)
  · rintro ⟨before, x, after, rfl, found, last⟩
    refine ⟨after.reverse, x, before.reverse, by simp, found, ?_⟩
    intro z among
    exact last z (List.mem_reverse.1 among)

section Actions

variable {W ε ε' α : Type}

/-- What an action on the host does is what the function does to the host. -/
theorem onHost_eq [Hosted W] {f : Host → Outcome ε α × Host} {w : W} {o : Outcome ε α} {h : Host}
    (given : f (Hosted.host w) = (o, h)) :
    (Hosted.onHost f : Action W ε α) w = (o, Hosted.withHost h w) := by
  unfold Hosted.onHost
  rw [given]

variable {x : Action W ε α} {w v : W}

theorem Action.attempt_of_done {a : α} (done : x w = (.done a, v)) :
    (x.attempt : Action W ε' (Except ε α)) w = (.done (.ok a), v) := by
  unfold Action.attempt
  rw [done]

theorem Action.attempt_of_failed {e : ε} (failed : x w = (.failed e, v)) :
    (x.attempt : Action W ε' (Except ε α)) w = (.done (.error e), v) := by
  unfold Action.attempt
  rw [failed]

end Actions

namespace CapturedOutput

/-! ## Lines -/

/-- Octets cut at the line feeds. What follows the last of these is a line if it is not empty. -/
inductive Cut : Octets → List Octets → Prop where
  | nothing : Cut [] []
  | last {line : Octets} : line ≠ [] → 10 ∉ line → Cut line [line]
  | ended {line rest : Octets} {others : List Octets} :
    10 ∉ line → Cut rest others → Cut (line ++ 10 :: rest) (line :: others)

/-- A line without the carriage return that ends it, if one does. -/
inductive Bare : Octets → Octets → Prop where
  | plain {line : Octets} : line.getLast? ≠ some 13 → Bare line line
  | returned {line : Octets} : Bare (line ++ [13]) line

/-- Octets read as lines of text. -/
def ReadAs (octets : Octets) (lines : List String) : Prop :=
  ∃ segments, Cut octets segments ∧
    List.Forall₂ (fun segment line => ∃ body, Bare segment body ∧
      line = Text.Utf8.decodeLossy body) segments lines

/-- The lines of octets, as they are cut out. -/
def segmentsOf (octets : Octets) : List Octets :=
  let segments := Text.pieces (· == 10) octets
  if segments.getLast? = some [] then segments.dropLast else segments

theorem segmentsOf_of_notMem {line : Octets} (noEnd : 10 ∉ line) :
    segmentsOf line = if line = [] then [] else [line] := by
  unfold segmentsOf
  rw [Text.pieces_of_notMem noEnd]
  simp

theorem segmentsOf_append {line : Octets} (rest : Octets) (noEnd : 10 ∉ line) :
    segmentsOf (line ++ 10 :: rest) = line :: segmentsOf rest := by
  unfold segmentsOf
  rw [Text.pieces_append_cons rfl, Text.pieces_of_notMem noEnd]
  cases others : Text.pieces (· == 10) rest with
  | nil => exact absurd others (Text.pieces_ne_nil _ rest)
  | cons first more =>
    dsimp only [List.singleton_append]
    rw [List.getLast?_cons_cons, List.dropLast_cons_cons]
    split <;> rfl

/-- There is one way to cut octets into lines. -/
theorem cut_iff {octets : Octets} {segments : List Octets} :
    Cut octets segments ↔ segments = segmentsOf octets := by
  constructor
  · intro cut
    induction cut with
    | nothing => rfl
    | last nonempty noEnd => rw [segmentsOf_of_notMem noEnd, if_neg nonempty]
    | ended noEnd _ ih => rw [segmentsOf_append _ noEnd, ih]
  · rintro rfl
    -- By the length: what follows the first line feed is shorter.
    induction size : octets.length using Nat.strongRecOn generalizing octets with
    | ind n ih =>
      by_cases ends : 10 ∈ octets
      · obtain ⟨line, rest, rfl, noEnd⟩ := List.eq_append_cons_of_mem ends
        have shorter : rest.length < n := by
          simp only [List.length_append, List.length_cons] at size
          omega
        rw [segmentsOf_append rest noEnd]
        exact .ended noEnd (ih _ shorter rfl)
      · rw [segmentsOf_of_notMem ends]
        split
        · next empty =>
          subst empty
          exact .nothing
        · next nonempty => exact .last nonempty ends

theorem bare_iff {line body : Octets} :
    Bare line body ↔ body = if line.getLast? = some 13 then line.dropLast else line := by
  constructor
  · rintro (plain | _)
    · rw [if_neg plain]
    · simp
  · rintro rfl
    split
    · next returned =>
      obtain ⟨front, rfl⟩ := List.getLast?_eq_some_iff.1 returned
      rw [List.dropLast_concat]
      exact .returned
    · next plain => exact .plain plain

/-- The lines that output is read as. -/
theorem readAs_iff {octets : Octets} {lines : List String} :
    ReadAs octets lines ↔ lines = linesOf octets := by
  have line (segment : Octets) (text : String) :
      (∃ body, Bare segment body ∧ text = Text.Utf8.decodeLossy body) ↔
        text = Text.Utf8.decodeLossy
          (if segment.getLast? = some 13 then segment.dropLast else segment) := by
    simp only [bare_iff, exists_eq_left]
  have whole : linesOf octets = (segmentsOf octets).map fun segment => Text.Utf8.decodeLossy
      (if segment.getLast? = some 13 then segment.dropLast else segment) := rfl
  unfold ReadAs
  simp only [cut_iff, exists_eq_left, line, whole]
  rw [← List.forall₂_eq_eq_eq, List.forall₂_map_right_iff]
  exact ⟨List.Forall₂.flip, List.Forall₂.flip⟩

/-! ## Reports -/

/-- A line that is, but for white space around it, the marker and then a text. -/
def Marks (line text : String) : Prop := Text.trim line = statusMarker ++ text

/-- A line that reports a status. -/
def Reports (line : String) (status : TestStatus) : Prop :=
  ∃ text, Marks line text ∧ TestStatus.parse? text = some status

/-- The last marked line has a text. -/
def MarkedLast (lines : List String) (text : String) : Prop :=
  ∃ before line after, lines = before ++ line :: after ∧ Marks line text ∧
    ∀ later ∈ after, ∀ other, ¬Marks later other

/-- A status was reported, and the last marked line reports none. -/
def Drowned (lines : List String) : Prop :=
  (∃ line ∈ lines, ∃ status, Reports line status) ∧
    ∃ text, MarkedLast lines text ∧ TestStatus.parse? text = none

theorem marks_iff {line text : String} : Marks line text ↔ reportIn? line = some text := by
  unfold Marks reportIn?
  rw [Option.map_eq_some_iff]
  constructor
  · intro marked
    refine ⟨text.toList, ?_, String.ofList_toList⟩
    rw [Text.dropLeading?_eq_some_iff, marked, String.toList_append]
  · rintro ⟨rest, dropped, rfl⟩
    rw [Text.dropLeading?_eq_some_iff] at dropped
    rw [← String.toList_inj, dropped, String.toList_append, String.toList_ofList]

theorem not_marks_iff {line : String} : (∀ text, ¬Marks line text) ↔ reportIn? line = none := by
  simp only [marks_iff, Option.eq_none_iff_forall_ne_some, ne_eq]

theorem reports_iff {line : String} {status : TestStatus} :
    Reports line status ↔ (reportIn? line).bind TestStatus.parse? = some status := by
  unfold Reports
  simp only [marks_iff, Option.bind_eq_some_iff]

theorem not_reports_iff {line : String} :
    (∀ status, ¬Reports line status) ↔ (reportIn? line).bind TestStatus.parse? = none := by
  simp only [reports_iff, Option.eq_none_iff_forall_ne_some, ne_eq]

theorem not_reports_of_not_marks {line : String} (unmarked : ∀ text, ¬Marks line text)
    (status : TestStatus) : ¬Reports line status := by
  rintro ⟨text, marked, -⟩
  exact unmarked text marked

theorem markedLast_iff {lines : List String} {text : String} :
    MarkedLast lines text ↔ lines.reverse.findSome? reportIn? = some text := by
  unfold MarkedLast
  simp only [findSome?_reverse_eq_some_iff, marks_iff, Option.eq_none_iff_forall_ne_some, ne_eq]

end CapturedOutput

namespace CommandBackend

open CapturedOutput

/-! ## The table of outcomes -/

/-- What the end of a command means. -/
inductive Means (b : CommandBackend) : Shell.Exit → TestStatus → Prop where
  | well : Means b (.code 0) .pass
  | ignored {n : Nat} : n ≠ 0 → b.ignoredExitCode = some (n : Int) → Means b (.code n) .ignored
  | badly {n : Nat} : n ≠ 0 → b.ignoredExitCode ≠ some (n : Int) → Means b (.code n) .fail
  | killed {n : Nat} : Means b (.signal n) .error

/-- The table of outcomes: the last line that reports a status decides, else the end does. -/
inductive Tabled (b : CommandBackend) (exit : Shell.Exit) : List String → TestStatus → Prop where
  | reported {before after : List String} {line : String} {status : TestStatus} :
    Reports line status → (∀ later ∈ after, ∀ other, ¬Reports later other) →
      Tabled b exit (before ++ line :: after) status
  | silent {lines : List String} {status : TestStatus} :
    (∀ line ∈ lines, ∀ other, ¬Reports line other) → Means b exit status →
      Tabled b exit lines status

theorem Means.unique {b : CommandBackend} {exit : Shell.Exit} {s t : TestStatus}
    (first : Means b exit s) (second : Means b exit t) : s = t := by
  cases first with
  | well => cases second <;> first | rfl | contradiction
  | ignored _ own => cases second <;> first | rfl | contradiction
  | badly _ other => cases second <;> first | rfl | contradiction
  | killed =>
    cases second
    rfl

/-- The table gives one status only. -/
theorem Tabled.unique {b : CommandBackend} {exit : Shell.Exit} {lines : List String}
    {s t : TestStatus} (first : Tabled b exit lines s) (second : Tabled b exit lines t) : s = t := by
  have last {lines : List String} {status : TestStatus} (tabled : Tabled b exit lines status) :
      lines.reverse.findSome? (fun l => (reportIn? l).bind TestStatus.parse?) = some status ∨
        lines.reverse.findSome? (fun l => (reportIn? l).bind TestStatus.parse?) = none ∧
          Means b exit status := by
    cases tabled with
    | reported reports later =>
      exact .inl (findSome?_reverse_eq_some_iff.2 ⟨_, _, _, rfl, reports_iff.1 reports,
        fun l among => not_reports_iff.1 (later l among)⟩)
    | silent unreported means =>
      exact .inr ⟨List.findSome?_eq_none_iff.2 fun l among =>
        not_reports_iff.1 (unreported l (List.mem_reverse.1 among)), means⟩
  obtain found | ⟨nothing, means⟩ := last first
  · obtain found' | ⟨nothing', -⟩ := last second
    · exact Option.some.inj (found.symm.trans found')
    · rw [found] at nothing'
      cases nothing'
  · obtain found' | ⟨-, means'⟩ := last second
    · rw [nothing] at found'
      cases found'
    · exact means.unique means'

/-- How the status of an attempt depends on what its command wrote and how it ended. -/
structure Settles (b : CommandBackend) (exit : Shell.Exit) (lines : List String)
    (status : TestStatus) : Prop where
  table : ¬Drowned lines → Tabled b exit lines status
  drowned : Drowned lines → Means b exit status

/-- Without a report, the end of the command decides. -/
theorem means_statusFor {b : CommandBackend} (exit : Shell.Exit) {output : CapturedOutput}
    (silent : output.reported? = none) : Means b exit (b.statusFor exit output) := by
  unfold statusFor
  rw [silent]
  dsimp only
  split
  · exact .well
  · next n positive =>
    split
    · next ignored => exact .ignored positive ignored
    · next other => exact .badly positive other
  · exact .killed

theorem settles_statusFor (b : CommandBackend) (exit : Shell.Exit) (output : CapturedOutput) :
    Settles b exit output.out (b.statusFor exit output) := by
  cases found : output.out.reverse.findSome? reportIn? with
  | none =>
    have means : Means b exit (b.statusFor exit output) :=
      means_statusFor exit (by unfold reported?; rw [found]; rfl)
    have silent : ∀ line ∈ output.out, ∀ other, ¬Reports line other := by
      intro line among
      have unmarked := List.findSome?_eq_none_iff.1 found line (List.mem_reverse.2 among)
      exact not_reports_of_not_marks (not_marks_iff.2 unmarked)
    exact ⟨fun _ => .silent silent means, fun _ => means⟩
  | some text =>
    have last : MarkedLast output.out text := markedLast_iff.2 found
    have reported : output.reported? = TestStatus.parse? text := by
      unfold reported?
      rw [found]
      rfl
    obtain ⟨before, line, after, whole, marked, later⟩ := last
    have unreported : ∀ l ∈ after, ∀ other, ¬Reports l other := by
      intro l among
      exact not_reports_of_not_marks (later l among)
    cases parsed : TestStatus.parse? text with
    | some status =>
      have own : b.statusFor exit output = status := by
        unfold statusFor
        rw [reported, parsed]
      rw [own, whole]
      refine ⟨fun _ => .reported ⟨text, marked, parsed⟩ unreported, ?_⟩
      rintro ⟨-, other, otherLast, unread⟩
      rw [← whole, markedLast_iff, found, Option.some.injEq] at otherLast
      rw [← otherLast, parsed] at unread
      cases unread
    | none =>
      have means : Means b exit (b.statusFor exit output) :=
        means_statusFor exit (reported.trans parsed)
      refine ⟨fun heard => .silent ?_ means, fun _ => means⟩
      -- A line that reports would be drowned by this one.
      intro l among other reports
      exact heard ⟨⟨l, among, other, reports⟩, text, markedLast_iff.2 found, parsed⟩

/-! ## Attempts -/

/-- How the command of an attempt ends on a host, if it ends and its output does within the
limits. -/
def endedInTime? (b : CommandBackend) (ctx : AttemptContext) (host : Host) :
    Option (Shell.Exit × Shell.Ended) :=
  match (b.launch ctx).run host with
  | .error _ => none
  | .ok (ended, _) =>
    ended.exit.bind fun exit =>
      if ended.ranFor.nanos + ctx.config.run.listenerGrace.nanos < ended.openFor.nanos then none
      else some (exit, ended)

/-- The command of an attempt is run to its end just if that comes in time. -/
theorem running_outcome (b : CommandBackend) (ctx : AttemptContext) (host : Host) :
    match b.endedInTime? ctx host with
    | none => ∃ e host', b.running ctx host = (.failed e, host')
    | some (exit, ended) => ∃ started finished host',
        b.running ctx host = (.done (exit, ended, started, finished), host') := by
  unfold endedInTime? running
  cases launched : (b.launch ctx).run host with
  | error f => exact ⟨_, _, rfl⟩
  | ok answer =>
    obtain ⟨ended, host'⟩ := answer
    dsimp only
    cases stopped : ended.exit with
    | none => exact ⟨_, _, rfl⟩
    | some exit =>
      by_cases slow :
        ended.ranFor.nanos + ctx.config.run.listenerGrace.nanos < ended.openFor.nanos
      · simp only [Option.bind_some, if_pos slow]
        exact ⟨_, _, rfl⟩
      · simp only [Option.bind_some, if_neg slow]
        exact ⟨_, _, _, rfl⟩

variable {W : Type} [Hosted W]

/-- Keeping the output leaves the status as it is. -/
theorem exists_keepOutput (ctx : AttemptContext) (output : CapturedOutput) (result : TestResult)
    (w : W) : ∃ kept w', keepOutput ctx output result w = (.done kept, w') ∧
      kept.status = result.status := by
  unfold keepOutput
  split
  · exact ⟨result, w, rfl, rfl⟩
  · obtain ⟨v, ⟨a, done⟩ | ⟨e, failed⟩⟩ := (isCalm_writeArtifact ctx.artifactRoot logName
      (Text.Utf8.encode output.log.toList)).done_or_failed w
    · exact ⟨_, _, Action.andThen_of_done (Action.attempt_of_done done), rfl⟩
    · exact ⟨_, _, Action.andThen_of_done (Action.attempt_of_failed failed), rfl⟩

/-- An attempt whose command is not launched, or not over in time, fails; any other has a result. -/
theorem execute_outcome (b : CommandBackend) (ctx : AttemptContext) (w : W) :
    match b.endedInTime? ctx (Hosted.host w) with
    | none => ∃ e w', b.execute ctx w = (.failed e, w')
    | some (exit, ended) => ∃ result w', b.execute ctx w = (.done result, w') ∧
        result.status = b.statusFor exit ⟨linesOf ended.out, linesOf ended.err⟩ := by
  have ran := b.running_outcome ctx (Hosted.host w)
  split at ran
  next late =>
    obtain ⟨e, host, failed⟩ := ran
    exact ⟨e, _, Action.andThen_of_failed (onHost_eq failed)⟩
  next exit ended inTime =>
    obtain ⟨started, finished, host, done⟩ := ran
    let output : CapturedOutput := ⟨linesOf ended.out, linesOf ended.err⟩
    obtain ⟨kept, w', keeps, status⟩ := exists_keepOutput ctx output
      (b.resultOf ctx started finished exit output) (Hosted.withHost host w)
    exact ⟨kept, w', (Action.andThen_of_done (onHost_eq done)).trans keeps, status⟩

/-- **The status of an attempt is what the table of outcomes says**, whatever the command writes and
however it ends, unless a marked line that reports no status drowns the reports before it. -/
theorem status_of_attempt (b : CommandBackend) :
    (∀ exit out err, ∃ lines, ReadAs out lines ∧
      Settles b exit lines (b.statusFor exit ⟨linesOf out, linesOf err⟩)) ∧
    ∀ (ctx : AttemptContext) (w : W),
      match b.endedInTime? ctx (Hosted.host w) with
      | none => ∃ e w', b.execute ctx w = (.failed e, w')
      | some (exit, ended) => ∃ result w' lines, b.execute ctx w = (.done result, w') ∧
          ReadAs ended.out lines ∧ Settles b exit lines result.status := by
  refine ⟨?_, ?_⟩
  · intro exit out err
    exact ⟨linesOf out, readAs_iff.2 rfl, settles_statusFor b exit ⟨linesOf out, linesOf err⟩⟩
  · intro ctx w
    have outcome := b.execute_outcome ctx w
    split at outcome
    next => exact outcome
    next exit ended inTime =>
      obtain ⟨result, w', done, status⟩ := outcome
      refine ⟨result, w', linesOf ended.out, done, readAs_iff.2 rfl, ?_⟩
      rw [status]
      exact settles_statusFor b exit ⟨linesOf ended.out, linesOf ended.err⟩

/-- What a command writes that reports a failure, and then misspells a status. -/
def misspelt : Octets :=
  Text.Utf8.encode "POOLRUN_STATUS=FAIL\nPOOLRUN_STATUS=bogus\n".toList

/-- By the table the attempt has failed, and it passes. -/
theorem report_drowned : Tabled default (.code 0) (linesOf misspelt) .fail ∧
    ¬Tabled default (.code 0) (linesOf misspelt)
      (statusFor default (.code 0) ⟨linesOf misspelt, []⟩) := by
  have lines : linesOf misspelt = [] ++ "POOLRUN_STATUS=FAIL" :: ["POOLRUN_STATUS=bogus"] := by
    decide
  have first : reportIn? "POOLRUN_STATUS=FAIL" = some "FAIL" := by decide
  have last : reportIn? "POOLRUN_STATUS=bogus" = some "bogus" := by decide
  have status : TestStatus.parse? "FAIL" = some .fail := by decide +kernel
  have nothing : TestStatus.parse? "bogus" = none := by decide +kernel
  have failed : Tabled default (.code 0) (linesOf misspelt) .fail := by
    rw [lines]
    refine .reported ⟨"FAIL", marks_iff.2 first, status⟩ fun later among => ?_
    rw [List.mem_singleton.1 among, not_reports_iff, last, Option.bind_some]
    exact nothing
  have passes : statusFor default (.code 0) ⟨linesOf misspelt, []⟩ = .pass := by
    have silent : (⟨linesOf misspelt, []⟩ : CapturedOutput).reported? = none := by
      rw [lines]
      exact nothing
    unfold statusFor
    rw [silent]
    rfl
  refine ⟨failed, fun passed => ?_⟩
  rw [passes] at passed
  cases failed.unique passed

end CommandBackend

end TestFleet
