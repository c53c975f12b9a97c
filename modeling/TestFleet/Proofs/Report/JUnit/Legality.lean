import TestFleet.Proofs.Report.JUnit
import TestFleet.Proofs.Xml.Letters
/-!
# Whether the report in JUnit XML can be read at all

A document of XML may not hold every character. Traces lose those that it may not hold, names are
written as they are: the illegal characters of a report are those of the names in it
(`illegal_of_names`), so that a report is legal just if all its names are.
-/
namespace TestFleet.Report.JUnit

open Xml (Element picked isPrinting)

/-- Whether a document of XML 1.0 may not hold a character. -/
def isIllegal (c : Char) : Bool := !isLegal c

theorem foreign_isIllegal : Xml.Foreign isIllegal where
  printing := by
    intro c printing
    unfold isPrinting at printing
    unfold isIllegal isLegal
    simp only [Bool.and_eq_true, decide_eq_true_iff] at printing
    simp only [Bool.not_eq_false', Bool.or_eq_true, Bool.and_eq_true, decide_eq_true_iff]
    omega
  newLine := by decide

/-! ## Texts without illegal characters -/

theorem isPrinting_toString (n : Nat) : (toString n).toList.all isPrinting = true := by
  refine List.all_eq_true.2 fun c hc => ?_
  have digit : c.isDigit = true :=
    Nat.isDigit_of_mem_toDigits (by decide) (by decide) (Nat.toList_repr (n := n) ▸ hc)
  exact Xml.isPrinting_of_isAlphanum (by simp [Char.isAlphanum, digit])

theorem isPrinting_append {s t : String} (first : s.toList.all isPrinting = true)
    (second : t.toList.all isPrinting = true) : (s ++ t).toList.all isPrinting = true := by
  rw [String.toList_append, List.all_append, first, second]
  rfl

theorem isPrinting_zeros (k : Nat) : (Decimal.zeros k).toList.all isPrinting = true := by
  rw [Decimal.zeros, String.toList_ofList, List.all_eq_true]
  intro c hc
  rw [List.eq_of_mem_replicate hc]
  decide

/-- A point between printing digits. -/
theorem isPrinting_insertPoint {ds : List Char} (printing : ds.all isPrinting = true) (n : Nat) :
    (Decimal.insertPoint ds n).toList.all isPrinting = true := by
  have part {cs : List Char} (subset : cs ⊆ ds) : (String.ofList cs).toList.all isPrinting = true := by
    rw [String.toList_ofList, List.all_eq_true]
    intro c hc
    exact List.all_eq_true.1 printing c (subset hc)
  have point : ".".toList.all isPrinting = true := by decide
  exact isPrinting_append (isPrinting_append (part (List.take_subset n ds)) point)
    (part (List.drop_subset n ds))

/-- Whatever the number, digits and signs are written, or a word. -/
theorem isPrinting_fixed (places : Nat) (x : Float) :
    (Decimal.fixed places x).toList.all isPrinting = true := by
  unfold Decimal.fixed
  cases Decimal.parts x with
  | nan => exact (show "NaN".toList.all isPrinting = true by decide)
  | infinite negative =>
    have words : ∀ b : Bool, (if b then "-inf" else "inf").toList.all isPrinting = true := by decide
    exact words negative
  | finite negative m q =>
    dsimp only
    generalize ((Decimal.Ratio.ofBinary m q).shift places).round = n
    have digits := isPrinting_toString n
    have padded := isPrinting_append (isPrinting_zeros (places + 1 - (toString n).length)) digits
    have pointed := isPrinting_insertPoint padded
    have minus : "-".toList.all isPrinting = true := by decide
    have magnitude : (if places = 0 then toString n else Decimal.insertPoint
        (Decimal.zeros (places + 1 - (toString n).length) ++ toString n).toList
        ((Decimal.zeros (places + 1 - (toString n).length) ++ toString n).length - places)).toList.all
          isPrinting = true := by
      split
      · exact digits
      · exact pointed _
    cases negative
    · exact magnitude
    · exact isPrinting_append minus magnitude

/-- The illegal characters of a text. -/
abbrev illegal (s : String) : List Char := picked isIllegal s

theorem illegal_eq_nil {s : String} (printing : s.toList.all isPrinting = true) : illegal s = [] :=
  foreign_isIllegal.filter_printing printing

theorem illegal_secondsText (seconds : Float) : illegal (secondsText seconds) = [] :=
  illegal_eq_nil (isPrinting_fixed 3 seconds)

theorem illegal_repr (n : Nat) : illegal n.repr = [] := illegal_eq_nil (isPrinting_toString n)

theorem illegal_cleaned (trace : String) : illegal (cleaned trace) = [] := by
  rw [cleaned_eq, illegal, picked, String.toList_ofList, List.filter_eq_nil_iff]
  intro c hc
  have kept := (List.mem_filter.1 hc).2
  rw [Bool.and_eq_true] at kept
  simp [isIllegal, kept.1]

theorem FirstLine.exists_rest {text line : List Char} (first : FirstLine text line) :
    ∃ rest, text = line ++ rest := by
  cases first with
  | whole => exact ⟨[], (List.append_nil _).symm⟩
  | ended => exact ⟨_, rfl⟩
  | returned => exact ⟨_, rfl⟩

theorem illegal_firstLine {text line : String} (first : firstLine? text = some line)
    (clean : illegal text = []) : illegal line = [] := by
  have shape : FirstLine text.toList line.toList := by
    rw [← firstLine?_eq_some_iff, String.ofList_toList, String.ofList_toList, first]
  obtain ⟨rest, whole⟩ := shape.exists_rest
  rw [illegal, picked, whole, List.filter_append] at clean
  exact (List.append_eq_nil_iff.1 clean).1

/-! ## The names in a report -/

/-- The names that a result is told with. -/
def namesOf (r : TestResult) : List String :=
  [r.test.package, r.test.className, r.test.method, r.device.serial]

/-- The names in a report, in written order. -/
def names (name : String) (r : RunResult) : List String :=
  name :: r.pools.flatMap fun p => p.pool.name :: p.results.flatMap namesOf

theorem illegal_qualifiedClass (t : TestCase) :
    illegal t.qualifiedClass = illegal t.package ++ illegal t.className := by
  unfold TestCase.qualifiedClass
  split
  next empty =>
    have unpackaged : t.package = "" := by simpa using empty
    rw [unpackaged]
    rfl
  · have dot : picked isIllegal "." = [] := illegal_eq_nil (by decide)
    rw [illegal, Xml.picked_append, Xml.picked_append, dot, List.append_nil]

/-- What a problem tells is clean: its trace has been cleaned, and its first line is a part of that. -/
theorem illegal_problem (name : String) (status : TestStatus) (trace : Option String) :
    (problem name status trace).texts.flatMap illegal = [] := by
  have kind : illegal status.name = [] := illegal_eq_nil (by cases status <;> decide)
  unfold problem
  cases trace with
  | none => simp [Element.texts, Xml.textsOfAll, kind]
  | some trace =>
    have clean := illegal_cleaned trace
    simp only [Option.map_some]
    cases first : firstLine? (cleaned trace) with
    | none => simp [Element.texts, kind, clean]
    | some line =>
      have message := illegal_firstLine first clean
      simp [Element.texts, kind, clean, message]

theorem illegal_ending (r : TestResult) : (Xml.textsOfAll (ending r)).flatMap illegal = [] := by
  unfold ending
  cases problemName r.status with
  | some name =>
    rw [Xml.textsOfAll, Xml.textsOfAll, List.append_nil]
    exact illegal_problem name _ _
  | none =>
    dsimp only
    split <;> rfl

theorem illegal_testcase (r : TestResult) :
    (testcase r).texts.flatMap illegal = (namesOf r).flatMap illegal := by
  have time := illegal_secondsText r.duration.seconds
  have device : illegal "device" = [] := illegal_eq_nil (by decide)
  have ended := illegal_ending r
  simp [testcase, Element.texts, Xml.textsOfAll, namesOf, illegal_qualifiedClass, time, device,
    ended]

/-- If each of some elements holds the illegal characters of its names, they do together. -/
theorem illegal_map {α : Type} {f : α → Element} {own : α → List String}
    (each : ∀ a, (f a).texts.flatMap illegal = (own a).flatMap illegal) (as : List α) :
    (Xml.textsOfAll (as.map f)).flatMap illegal = (as.flatMap own).flatMap illegal := by
  rw [Xml.textsOfAll_eq, List.flatMap_map, List.flatMap_assoc, List.flatMap_assoc]
  exact List.flatMap_congr fun a _ => each a

theorem illegal_testsuite (p : PoolResult) :
    (testsuite p).texts.flatMap illegal =
      (p.pool.name :: p.results.flatMap namesOf).flatMap illegal := by
  have time := illegal_secondsText (totalSeconds p.results)
  have results := illegal_map illegal_testcase p.results
  simp [testsuite, Element.texts, illegal_repr, time, results]

theorem illegal_render (name : String) (r : RunResult) :
    illegal (render name r) = (names name r).flatMap illegal := by
  have time := illegal_secondsText r.duration.seconds
  have pools := illegal_map illegal_testsuite r.pools
  have whole : illegal (render name r) = (testsuites name r).texts.flatMap illegal :=
    foreign_isIllegal.filter_render _ (wellNamed_testsuites name r)
  rw [whole]
  simp [testsuites, Element.texts, names, illegal_repr, time, pools]

theorem illegal_eq_nil_iff {s : String} : illegal s = [] ↔ ∀ c ∈ s.toList, isLegal c = true := by
  simp [illegal, picked, isIllegal]

/-- **The illegal characters of a report are those of the names in it**, in the order in which these
are written; so it can be read just if no name holds one, whatever the traces hold. -/
theorem illegal_of_names (name : String) (r : RunResult) :
    illegal (render name r) = (names name r).flatMap illegal ∧
      ((∀ c ∈ (render name r).toList, isLegal c = true) ↔
        ∀ n ∈ names name r, ∀ c ∈ n.toList, isLegal c = true) := by
  have all := illegal_render name r
  refine ⟨all, ?_⟩
  rw [← illegal_eq_nil_iff, all, List.flatMap_eq_nil_iff]
  exact forall₂_congr fun n _ => illegal_eq_nil_iff

/-- A run with one test that passed, and a method whose name ends in a control character. -/
def controlled : RunResult where
  runId := default
  pools :=
    let identity : ResultIdentity := ⟨⟨"omni"⟩, ⟨"a"⟩, ⟨"", "C", "m\x01", "unit", [], []⟩⟩
    [⟨identity.pool, [TestResult.ofStatus identity .pass default], [], 0, []⟩]
  duration := default
  ignoreFailures := false
  retriesUsed := 0

/-- The character stands in the report. -/
theorem control_not_dropped : ∃ c ∈ (render defaultName controlled).toList, isLegal c = false := by
  have one : illegal (render defaultName controlled) = ['\x01'] := by
    rw [illegal_render]
    decide
  have mem : '\x01' ∈ illegal (render defaultName controlled) := one ▸ List.mem_singleton_self _
  exact ⟨'\x01', (List.mem_filter.1 mem).1, by decide⟩

end TestFleet.Report.JUnit
