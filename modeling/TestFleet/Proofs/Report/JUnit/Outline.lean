import Mathlib.Algebra.GroupWithZero.Nat
import TestFleet.Proofs.Report.JUnit
import TestFleet.Proofs.Xml.Tags
/-!
# The outline of the report in JUnit XML

The tags of a report depend on the statuses of its results and on nothing else, but that a problem
may or may not carry a message (`tags_of_alike`): no name and no trace can open, close or add an
element. Of the counters, each says how many elements there are of its kind, except that an UNKNOWN
result is told as an error and not counted as one (`counters_render`).
-/
namespace TestFleet.Report.JUnit

open Xml (Element Node Tag)

/-! ## The tags of a test case -/

/-- The attributes of the element of a problem. -/
def problemKeys (trace : Option String) : List String :=
  match (trace.map cleaned).bind firstLine? with
  | some _ => ["message", "type"]
  | none => ["type"]

/-- The tags of the element that tells how a test ended. -/
def endingTags (r : TestResult) : List Tag :=
  match problemName r.status with
  | some name => [.opening name (problemKeys r.trace), .closing name]
  | none => if r.status = .pass then [] else [.opening "skipped" [], .closing "skipped"]

theorem tags_problem (name : String) (status : TestStatus) (trace : Option String) (level : Nat) :
    ((problem name status trace).node level).tags =
      [.opening name (problemKeys trace), .closing name] := by
  unfold problem problemKeys
  cases trace.map cleaned with
  | none => rfl
  | some text =>
    simp only [Option.bind_some]
    cases firstLine? text with
    | none => exact Xml.tags_leaf
    | some line => exact Xml.tags_leaf

theorem tags_ending (r : TestResult) (level : Nat) :
    ((ending r).flatMap fun e => (e.node level).tags) = endingTags r := by
  unfold ending endingTags
  cases problemName r.status with
  | some name =>
    dsimp only
    rw [List.flatMap_singleton, tags_problem]
  | none =>
    dsimp only
    split
    · rfl
    · rfl

/-- A test case holds its properties and what tells how the test ended. -/
theorem tags_testcase (r : TestResult) (level : Nat) :
    ((testcase r).node level).tags =
      [.opening "testcase" ["classname", "name", "time"], .opening "properties" [],
        .opening "property" ["name", "value"], .closing "property", .closing "properties"] ++
        endingTags r ++ [.closing "testcase"] := by
  rw [testcase, Xml.tags_branch, List.flatMap_cons, tags_ending]
  rfl

theorem tags_testsuite (p : PoolResult) (level : Nat) :
    ((testsuite p).node level).tags =
      .opening "testsuite" ["name", "tests", "failures", "errors", "skipped", "time"] ::
        ((p.results.flatMap fun r => ((testcase r).node (level + 1)).tags) ++
          [.closing "testsuite"]) := by
  rw [testsuite, Xml.tags_branch, List.flatMap_map]
  rfl

theorem tags_testsuites (name : String) (r : RunResult) (level : Nat) :
    ((testsuites name r).node level).tags =
      .opening "testsuites" ["name", "tests", "failures", "errors", "time"] ::
        ((r.pools.flatMap fun p => ((testsuite p).node (level + 1)).tags) ++
          [.closing "testsuites"]) := by
  rw [testsuites, Xml.tags_branch, List.flatMap_map]
  rfl

/-! ## Runs that differ in their texts only -/

/-- The statuses of the results, pool by pool. -/
def statuses (r : RunResult) : List (List TestStatus) :=
  r.pools.map fun p => p.results.map (·.status)

theorem forall₂_of_map_eq {α β : Type} {f : α → β} {xs ys : List α} (same : xs.map f = ys.map f) :
    List.Forall₂ (fun x y => f x = f y) xs ys := by
  have mapped : List.Forall₂ Eq (xs.map f) (ys.map f) := by
    rw [List.forall₂_eq_eq_eq]
    exact same
  exact List.forall₂_map_right_iff.1 (List.forall₂_map_left_iff.1 mapped)

/-- Tags that are the same, but that of two that begin a problem one may carry a message. -/
inductive AlikeTag : Tag → Tag → Prop where
  | same (t : Tag) : AlikeTag t t
  | problem {name : String} {keys keys' : List String} :
    name = "failure" ∨ name = "error" → keys ∈ [["message", "type"], ["type"]] →
      keys' ∈ [["message", "type"], ["type"]] →
      AlikeTag (.opening name keys) (.opening name keys')

theorem alike_same (ts : List Tag) : List.Forall₂ AlikeTag ts ts :=
  List.forall₂_same.2 fun t _ => .same t

theorem problemKeys_mem (trace : Option String) :
    problemKeys trace ∈ [["message", "type"], ["type"]] := by
  unfold problemKeys
  split <;> simp

theorem isProblem_of_problemName {status : TestStatus} {name : String}
    (told : problemName status = some name) : name = "failure" ∨ name = "error" := by
  cases status <;> cases told <;> simp

theorem alike_endingTags {r r' : TestResult} (status : r.status = r'.status) :
    List.Forall₂ AlikeTag (endingTags r) (endingTags r') := by
  unfold endingTags
  rw [← status]
  cases told : problemName r.status with
  | none => exact alike_same _
  | some name =>
    have opening : AlikeTag (.opening name (problemKeys r.trace))
        (.opening name (problemKeys r'.trace)) :=
      .problem (isProblem_of_problemName told) (problemKeys_mem _) (problemKeys_mem _)
    exact .cons opening (alike_same _)

theorem alike_testcase {r r' : TestResult} (status : r.status = r'.status) (level : Nat) :
    List.Forall₂ AlikeTag ((testcase r).node level).tags ((testcase r').node level).tags := by
  rw [tags_testcase, tags_testcase]
  exact List.rel_append (List.rel_append (alike_same _) (alike_endingTags status)) (alike_same _)

theorem alike_testsuite {p p' : PoolResult}
    (alike : p.results.map (·.status) = p'.results.map (·.status)) (level : Nat) :
    List.Forall₂ AlikeTag ((testsuite p).node level).tags ((testsuite p').node level).tags := by
  have results : List.Forall₂ (fun r r' => r.status = r'.status) p.results p'.results :=
    forall₂_of_map_eq alike
  rw [tags_testsuite, tags_testsuite]
  refine .cons (.same _) (List.rel_append ?_ (alike_same _))
  exact List.rel_flatMap results fun _ _ status => alike_testcase status _

/-- **No text forges the structure of a report.** The reports of two runs whose results have the same
statuses, pool by pool, have the same tags in the same order, properly nested, whatever the names and
the traces hold; only that a problem may carry a message in one of them. -/
theorem tags_of_alike {r r' : RunResult} (alike : statuses r = statuses r') (name name' : String) :
    ∃ tags tags', Xml.tags? (render name r) = some tags ∧ Xml.tags? (render name' r') = some tags' ∧
      Xml.Nested tags ∧ Xml.Nested tags' ∧ List.Forall₂ AlikeTag tags tags' := by
  have pools : List.Forall₂ (fun p p' => p.results.map (·.status) = p'.results.map (·.status))
      r.pools r'.pools := forall₂_of_map_eq alike
  refine ⟨_, _, Xml.tags?_of_read? (Xml.read?_render _ (wellNamed_testsuites name r)),
    Xml.tags?_of_read? (Xml.read?_render _ (wellNamed_testsuites name' r')),
    Node.nested_tags _, Node.nested_tags _, ?_⟩
  rw [tags_testsuites, tags_testsuites]
  refine .cons (.same _) (List.rel_append ?_ (alike_same _))
  exact List.rel_flatMap pools fun _ _ results => alike_testsuite results _

/-- A run whose texts are made of tags. -/
def forging : RunResult where
  runId := default
  pools :=
    let markup := "\"/></testcase><error type=\"ERROR\"/><testcase name=\""
    let identity : ResultIdentity := ⟨⟨markup⟩, ⟨markup⟩, ⟨markup, markup, markup, "unit", [], []⟩⟩
    let result := { TestResult.ofStatus identity .fail default with trace := some ("\n" ++ markup) }
    [⟨identity.pool, [result], [], 0, []⟩]
  duration := default
  ignoreFailures := false
  retriesUsed := 0

/-- The tags are those of a run whose texts are plain. -/
theorem tags_of_forging : statuses pictured = statuses forging ∧
    ∃ tags tags', Xml.tags? (render defaultName pictured) = some tags ∧
      Xml.tags? (render "<x>" forging) = some tags' ∧ Xml.Nested tags ∧ Xml.Nested tags' ∧
      List.Forall₂ AlikeTag tags tags' :=
  have alike : statuses pictured = statuses forging := by decide
  ⟨alike, tags_of_alike alike defaultName "<x>"⟩

/-! ## Counters -/

/-- An attribute of an element is a number. -/
def Figure (key : String) (node : Node) (n : Nat) : Prop := node.attribute? key = some (toString n)

/-- The counters of an element that tells of a pool say how many elements there are in it; but there
is an error for each UNKNOWN result too, and that is not counted. -/
structure Counted (p : PoolResult) (suite : Node) : Prop where
  tests : Figure "tests" suite (suite.number "testcase")
  failures : Figure "failures" suite (suite.number "failure")
  skipped : Figure "skipped" suite (suite.number "skipped")
  errors : ∃ n, Figure "errors" suite n ∧ suite.number "error" = n + p.count (· == .unknown)

/-- The name of the element that tells how a test ended, if there is one. -/
def endingName? (status : TestStatus) : Option String :=
  match problemName status with
  | some name => some name
  | none => if status = .pass then none else some "skipped"

theorem countP_endingTags (name : String) (r : TestResult) :
    (endingTags r).countP (Tag.opens name) = if endingName? r.status = some name then 1 else 0 := by
  unfold endingTags endingName?
  cases problemName r.status with
  | some own => simp [List.countP_cons, Tag.opens]
  | none =>
    dsimp only
    split
    · rfl
    · simp [List.countP_cons, Tag.opens]

/-- Beside its properties, a test case is one element, and another that tells how the test ended. -/
theorem countP_testcase {name : String} (apart : name ∉ ["properties", "property"]) (r : TestResult)
    (level : Nat) :
    ((testcase r).node level).tags.countP (Tag.opens name) =
      (if "testcase" = name then 1 else 0) + if endingName? r.status = some name then 1 else 0 := by
  have properties : "properties" ≠ name := fun same => apart (by simp [same])
  have property : "property" ≠ name := fun same => apart (by simp [same])
  rw [tags_testcase, List.countP_append, List.countP_append, countP_endingTags]
  simp [List.countP_cons, Tag.opens, properties, property]

theorem countP_or (p : PoolResult) {a b : TestStatus} (apart : a ≠ b) :
    (p.results.countP fun r => r.status == a || r.status == b) =
      p.count (· == a) + p.count (· == b) := by
  unfold PoolResult.count
  induction p.results with
  | nil => rfl
  | cons r rest ih =>
    simp only [List.countP_cons, ih]
    by_cases first : r.status = a
    · have other : r.status ≠ b := fun same => apart (first.symm.trans same)
      simp [first, apart]
      omega
    · by_cases second : r.status = b
      · simp [second, apart.symm]
        omega
      · simp [first, second]

theorem counted_testsuite (p : PoolResult) (level : Nat) : Counted p ((testsuite p).node level) := by
  have number (name : String) (test : TestResult → Bool) (apart : name ∉ ["properties", "property"])
      (holds : ∀ r : TestResult, (if "testcase" = name then 1 else 0) +
        (if endingName? r.status = some name then 1 else 0) = if test r then 1 else 0) :
      ((testsuite p).node level).number name = p.results.countP test := by
    refine Xml.number_branch_map (fun r => ?_) p.results
    rw [countP_testcase apart, holds]
  refine ⟨?tests, ?failures, ?skipped, ?errors⟩
  case tests =>
    have all := number "testcase" (fun _ => true) (by decide) fun r => by cases r.status <;> rfl
    rw [all, List.countP_true]
    rfl
  case failures =>
    have all := number "failure" (fun r => r.status == .fail) (by decide)
      fun r => by cases r.status <;> rfl
    rw [all]
    rfl
  case skipped =>
    have all := number "skipped" (fun r => r.status == .ignored || r.status == .assumptionFailed)
      (by decide) fun r => by cases r.status <;> rfl
    rw [all, countP_or p (by decide)]
    rfl
  case errors =>
    have all := number "error" (fun r => r.status == .error || r.status == .unknown)
      (by decide) fun r => by cases r.status <;> rfl
    rw [countP_or p (by decide)] at all
    exact ⟨p.count (· == .error), rfl, all⟩

/-- A count over all results is the sum of the counts over those of each pool. -/
theorem count_eq_sum (r : RunResult) (matching : TestStatus → Bool) :
    r.count matching = (r.pools.map fun p => p.count matching).sum := by
  unfold RunResult.count RunResult.results
  rw [List.countP_flatMap]
  rfl

/-- **The counters of a report agree with its elements**, pool by pool, but for the UNKNOWN results;
and those of the whole report are the sums of those of its pools. -/
theorem counters_render (name : String) (r : RunResult) :
    ∃ root, Xml.read? (render name r) = some root ∧
      List.Forall₂ Counted r.pools (root.named "testsuite") ∧
      ∀ key ∈ ["tests", "failures", "errors"], ∃ figures,
        List.Forall₂ (Figure key) (root.named "testsuite") figures ∧ Figure key root figures.sum := by
  have suites : ((testsuites name r).node 0).named "testsuite" =
      r.pools.map fun p => (testsuite p).node 1 :=
    Xml.named_branch_map (fun p => show (testsuite p).name = "testsuite" from rfl) _ _ _
  refine ⟨_, Xml.read?_render _ (wellNamed_testsuites name r), ?_, ?_⟩
  · rw [suites]
    exact List.forall₂_map_right_iff.2 (List.forall₂_same.2 fun p _ => counted_testsuite p _)
  · have sums {key : String} (figure : PoolResult → Nat)
        (own : ∀ p, Figure key ((testsuite p).node 1) (figure p))
        (total : Figure key ((testsuites name r).node 0) (r.pools.map figure).sum) :
        ∃ figures, List.Forall₂ (Figure key) (((testsuites name r).node 0).named "testsuite") figures ∧
          Figure key ((testsuites name r).node 0) figures.sum := by
      refine ⟨r.pools.map figure, ?_, total⟩
      rw [suites]
      exact List.forall₂_map_left_iff.2
        (List.forall₂_map_right_iff.2 (List.forall₂_same.2 fun p _ => own p))
    have total : r.total = (r.pools.map fun p => p.results.length).sum := List.length_flatMap
    intro key known
    simp only [List.mem_cons, List.not_mem_nil, or_false] at known
    obtain rfl | rfl | rfl := known
    · exact sums (fun p => p.results.length) (fun p => rfl) (total ▸ rfl)
    · exact sums (fun p => p.count (· == .fail)) (fun p => rfl) (count_eq_sum r _ ▸ rfl)
    · exact sums (fun p => p.count (· == .error)) (fun p => rfl) (count_eq_sum r _ ▸ rfl)

/-- A run with one test that has not said how it ended. -/
def undecided : RunResult where
  runId := default
  pools :=
    let identity : ResultIdentity := ⟨⟨"omni"⟩, ⟨"a"⟩, ⟨"", "C", "m", "unit", [], []⟩⟩
    [⟨identity.pool, [TestResult.ofStatus identity .unknown default], [], 0, []⟩]
  duration := default
  ignoreFailures := false
  retriesUsed := 0

/-- The report holds an error and counts none. -/
theorem error_not_counted : ∃ root, Xml.read? (render defaultName undecided) = some root ∧
    root.attribute? "errors" = some "0" ∧
      (root.named "testsuite").map (fun suite => (suite.attribute? "errors", suite.number "error")) =
        [(some "0", 1)] :=
  ⟨_, Xml.read?_render _ (wellNamed_testsuites defaultName undecided), rfl, rfl⟩

end TestFleet.Report.JUnit
