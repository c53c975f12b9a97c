import Mathlib.Data.List.Forall2
import TestFleet.Proofs.Xml.Reading
import TestFleet.Report.JUnit
/-!
# What the report in JUnit XML tells

Read back, the report has a suite for each pool and in it a test case for each result, in order
(`read_render`). A test case has the class, the method and the device of its result, whatever
characters they hold, and a problem has the trace and its first line. A trace loses the characters
that XML cannot hold and with them those beyond 16 bits, which it can.
-/
namespace TestFleet.Report.JUnit

open Xml (Element Node)

/-! ## Traces -/

/-- The characters that a document of XML 1.0 may hold. -/
def isLegal (c : Char) : Bool :=
  c.toNat = 0x9 || c.toNat = 0xA || c.toNat = 0xD || (0x20 ≤ c.toNat && c.toNat ≤ 0xD7FF)
    || (0xE000 ≤ c.toNat && c.toNat ≤ 0xFFFD) || (0x10000 ≤ c.toNat && c.toNat ≤ 0x10FFFF)

/-- What a report tells of a trace: its legal characters of 16 bits. -/
def told (trace : String) : List Char :=
  trace.toList.filter fun c => isLegal c && c.toNat < 0x10000

theorem isCarried_eq (c : Char) :
    isCarried c = (isLegal c && decide (c.toNat < 0x10000)) := by
  have sign (d : Char) : (c == d) = decide (c.toNat = d.toNat) := by
    rw [Bool.eq_iff_iff, beq_iff_eq, decide_eq_true_iff, Char.toNat_inj]
  have tab : ('\t' : Char).toNat = 0x9 := rfl
  have feed : ('\n' : Char).toNat = 0xA := rfl
  have ret : ('\r' : Char).toNat = 0xD := rfl
  unfold isCarried isLegal
  rw [sign, sign, sign, tab, feed, ret, Bool.eq_iff_iff]
  simp only [Bool.or_eq_true, Bool.and_eq_true, decide_eq_true_iff]
  omega

theorem cleaned_eq (trace : String) : cleaned trace = String.ofList (told trace) :=
  congrArg (fun p => String.ofList (trace.toList.filter p)) (funext isCarried_eq)

/-- The first line of a text, without what ends it. -/
inductive FirstLine : List Char → List Char → Prop where
  | whole {line : List Char} : line ≠ [] → '\n' ∉ line → FirstLine line line
  | ended {line rest : List Char} :
    '\n' ∉ line → line.getLast? ≠ some '\r' → FirstLine (line ++ '\n' :: rest) line
  | returned {line rest : List Char} : '\n' ∉ line → FirstLine (line ++ '\r' :: '\n' :: rest) line

theorem firstLine?_of_notMem {text : List Char} (noEnd : '\n' ∉ text) :
    firstLine? (String.ofList text) = if text = [] then none else some (String.ofList text) := by
  have one : Text.pieces (· == '\n') text = [text] :=
    Text.pieces_of_forall_not fun c hc => beq_eq_false_iff_ne.2 fun same => noEnd (same ▸ hc)
  unfold firstLine? Text.lines
  rw [String.toList_ofList, one]
  cases text <;> rfl

theorem firstLine?_append {line : List Char} (rest : List Char) (noEnd : '\n' ∉ line) :
    firstLine? (String.ofList (line ++ '\n' :: rest)) =
      some (String.ofList (Text.withoutReturn line)) := by
  have one : Text.pieces (· == '\n') line = [line] :=
    Text.pieces_of_forall_not fun c hc => beq_eq_false_iff_ne.2 fun same => noEnd (same ▸ hc)
  unfold firstLine? Text.lines
  rw [String.toList_ofList, Text.pieces_append_cons rfl, one]
  cases others : Text.pieces (· == '\n') rest with
  | nil => exact absurd others (Text.pieces_ne_nil _ rest)
  | cons first more =>
    dsimp only [List.singleton_append]
    rw [List.dropLast_cons_cons]
    split <;> rfl

theorem withoutReturn_append (line : List Char) : Text.withoutReturn (line ++ ['\r']) = line := by
  unfold Text.withoutReturn
  simp

theorem withoutReturn_of_getLast? {line : List Char} (last : line.getLast? ≠ some '\r') :
    Text.withoutReturn line = line := by
  unfold Text.withoutReturn
  split
  next reversed =>
    rw [← List.head?_reverse, reversed] at last
    exact absurd rfl last
  next => rfl

/-- The line that the message is made of is the first line. -/
theorem firstLine?_eq_some_iff {text line : List Char} :
    firstLine? (String.ofList text) = some (String.ofList line) ↔ FirstLine text line := by
  constructor
  · intro found
    by_cases ends : '\n' ∈ text
    · obtain ⟨first, rest, rfl, noEnd⟩ := List.eq_append_cons_of_mem ends
      rw [firstLine?_append rest noEnd, Option.some.injEq, String.ofList_inj] at found
      by_cases last : first.getLast? = some '\r'
      · obtain ⟨front, rfl⟩ := List.getLast?_eq_some_iff.1 last
        rw [withoutReturn_append] at found
        subst found
        rw [List.append_assoc]
        exact .returned fun end_ => noEnd (List.mem_append_left _ end_)
      · rw [withoutReturn_of_getLast? last] at found
        subst found
        exact .ended noEnd last
    · rw [firstLine?_of_notMem ends] at found
      split at found
      · cases found
      · next nonempty =>
        obtain rfl := String.ofList_inj.1 (Option.some.inj found)
        exact .whole nonempty ends
  · rintro (⟨nonempty, noEnd⟩ | ⟨noEnd, last⟩ | @⟨_, rest, noEnd⟩)
    · rw [firstLine?_of_notMem noEnd, if_neg nonempty]
    · rw [firstLine?_append _ noEnd, withoutReturn_of_getLast? last]
    · have noEnd' : '\n' ∉ line ++ ['\r'] := by simp [noEnd]
      have same : line ++ '\r' :: '\n' :: rest = line ++ ['\r'] ++ '\n' :: rest := by simp
      rw [same, firstLine?_append rest noEnd', withoutReturn_append]

/-! ## Elements -/

/-- The element of a problem tells of a result: of its status, and of its trace if it has one. -/
structure TellsProblem (r : TestResult) (problem : Node) : Prop where
  kind : problem.attribute? "type" = some r.status.name
  text : ∀ trace, r.trace = some trace → problem.soleText? = some (String.ofList (told trace))
  message : ∀ line, problem.attribute? "message" = some (String.ofList line) ↔
    ∃ trace, r.trace = some trace ∧ FirstLine (told trace) line

/-- An element tells of a result: of the class and the method of its test, of its device, and of a
problem in an element of its own if there was one. -/
structure Tells (r : TestResult) (node : Node) : Prop where
  className : node.attribute? "classname" = some r.test.qualifiedClass
  method : node.attribute? "name" = some r.test.method
  device : ∃ properties property, node.named "properties" = [properties] ∧
    properties.named "property" = [property] ∧ property.attribute? "name" = some "device" ∧
    property.attribute? "value" = some r.device.serial
  failure : if r.status = .fail
    then ∃ problem, node.named "failure" = [problem] ∧ TellsProblem r problem
    else node.named "failure" = []
  error : if r.status = .error ∨ r.status = .unknown
    then ∃ problem, node.named "error" = [problem] ∧ TellsProblem r problem
    else node.named "error" = []

/-- An element tells of a pool: of its name, and of its results in order. -/
structure TellsPool (p : PoolResult) (node : Node) : Prop where
  name : node.attribute? "name" = some p.pool.name
  results : List.Forall₂ Tells p.results (node.named "testcase")

theorem tellsProblem_problem (name : String) (r : TestResult) (level : Nat) :
    TellsProblem r ((problem name r.status r.trace).node level) := by
  unfold problem
  cases traced : r.trace with
  | none =>
    refine ⟨rfl, fun trace some_ => ?_, fun line => ⟨fun found => ?_, ?_⟩⟩
    · cases traced.symm.trans some_
    · cases found
    · rintro ⟨trace, some_, -⟩
      cases traced.symm.trans some_
  | some trace =>
    have first (line : List Char) :
        firstLine? (String.ofList (told trace)) = some (String.ofList line) ↔
          ∃ t, some trace = some t ∧ FirstLine (told t) line := by
      rw [firstLine?_eq_some_iff]
      simp
    have text (attributes : Xml.Attributes) (t : String) (own : r.trace = some t) :
        ((Element.leaf name attributes (String.ofList (told trace))).node level).soleText? =
          some (String.ofList (told t)) := by
      cases traced.symm.trans own
      exact Xml.soleText?_leaf _
    simp only [Option.map_some, cleaned_eq]
    cases line : firstLine? (String.ofList (told trace)) with
    | none => exact ⟨rfl, text _, fun l => by rw [traced, ← first, line]; rfl⟩
    | some own => exact ⟨rfl, text _, fun l => by rw [traced, ← first, line]; rfl⟩

theorem name_problem (name : String) (status : TestStatus) (trace : Option String) :
    (problem name status trace).name = name := by
  unfold problem
  split <;> rfl

/-- Of the elements of a name, but for the marks of skipped tests, there is one if a problem is told
so. -/
theorem filter_ending {name : String} (r : TestResult) (notMark : name ≠ "skipped") :
    (ending r).filter (·.name == name) =
      if problemName r.status = some name then [problem name r.status r.trace] else [] := by
  unfold ending
  cases problemName r.status with
  | none =>
    have mark : (Element.single "skipped" []).name ≠ name := notMark.symm
    dsimp only
    split <;> simp [mark]
  | some own =>
    by_cases same : own = name
    · simp [same, name_problem]
    · simp [same, name_problem]

theorem tells_testcase (r : TestResult) (level : Nat) : Tells r ((testcase r).node level) := by
  have problems (name : String) :
      TellsProblem r ((problem name r.status r.trace).node (level + 1)) :=
    tellsProblem_problem name r (level + 1)
  let properties : Element := .branch "properties" []
    [.single "property" [("name", "device"), ("value", r.device.serial)]]
  have named (name : String) : ((testcase r).node level).named name =
      ((properties :: ending r).filter (·.name == name)).map (Element.node (level + 1)) :=
    Xml.named_branch name
  -- A name other than that of the properties is the name of a problem, if of anything.
  have told {name : String} (apart : "properties" ≠ name) (notMark : name ≠ "skipped") :
      if problemName r.status = some name
      then ∃ problem, ((testcase r).node level).named name = [problem] ∧ TellsProblem r problem
      else ((testcase r).node level).named name = [] := by
    have skip : properties.name ≠ name := apart
    rw [named, List.filter_cons_of_neg (by simpa using skip), filter_ending r notMark]
    split
    · exact ⟨_, rfl, problems name⟩
    · rfl
  refine ⟨rfl, rfl, ?device, ?failure, ?error⟩
  case device =>
    have other : problemName r.status ≠ some "properties" := by
      cases r.status <;> decide
    refine ⟨properties.node (level + 1), _, ?_, rfl, rfl, rfl⟩
    rw [named, List.filter_cons_of_pos rfl, filter_ending r (by decide), if_neg other]
    rfl
  case failure =>
    have iff : problemName r.status = some "failure" ↔ r.status = .fail := by
      cases r.status <;> decide
    simpa only [iff] using told (by decide : "properties" ≠ "failure") (by decide)
  case error =>
    have iff : problemName r.status = some "error" ↔ r.status = .error ∨ r.status = .unknown := by
      cases r.status <;> decide
    simpa only [iff] using told (by decide : "properties" ≠ "error") (by decide)

theorem tellsPool_testsuite (p : PoolResult) (level : Nat) :
    TellsPool p ((testsuite p).node level) := by
  refine ⟨rfl, ?_⟩
  have cases_ : ((testsuite p).node level).named "testcase" =
      p.results.map fun r => (testcase r).node (level + 1) :=
    Xml.named_branch_map (fun r => show (testcase r).name = "testcase" from rfl) _ _ _
  rw [cases_]
  exact List.forall₂_map_right_iff.2 (List.forall₂_same.2 fun r _ => tells_testcase r _)

/-! ## The document -/

theorem wellNamed_problem {name : String} (own : Xml.IsName name) (status : TestStatus)
    (trace : Option String) : (problem name status trace).WellNamed := by
  have kind : ∀ entry ∈ [("type", status.name)], Xml.IsName entry.1 :=
    Xml.isName_of_keys (show ∀ key ∈ ["type"], Xml.IsName key by decide)
  unfold problem
  split
  · exact ⟨own, kind, trivial⟩
  next text _ =>
    cases firstLine? text with
    | none => exact ⟨own, kind⟩
    | some line =>
      exact ⟨own, Xml.isName_of_keys (show ∀ key ∈ ["message", "type"], Xml.IsName key by decide)⟩

theorem wellNamed_of_mem_ending (r : TestResult) : ∀ e ∈ ending r, e.WellNamed := by
  have names : ∀ status, ∀ name ∈ problemName status, Xml.IsName name := by
    intro status
    cases status <;> decide
  unfold ending
  intro e he
  cases own : problemName r.status with
  | none =>
    rw [own] at he
    dsimp only at he
    split at he
    · cases he
    · rw [List.mem_singleton.1 he]
      exact ⟨by decide, nofun⟩
  | some name =>
    rw [own] at he
    rw [List.mem_singleton.1 he]
    exact wellNamed_problem (names r.status name own) _ _

theorem wellNamed_testcase (r : TestResult) : (testcase r).WellNamed := by
  have keys : ∀ key ∈ ["classname", "name", "time"], Xml.IsName key := by decide
  have propertyKeys : ∀ key ∈ ["name", "value"], Xml.IsName key := by decide
  have properties : (Element.branch "properties" []
      [.single "property" [("name", "device"), ("value", r.device.serial)]]).WellNamed :=
    ⟨by decide, nofun, ⟨by decide, Xml.isName_of_keys propertyKeys⟩, trivial⟩
  exact ⟨by decide, Xml.isName_of_keys keys, properties,
    Xml.allWellNamed_iff.2 (wellNamed_of_mem_ending r)⟩

theorem wellNamed_testsuites (name : String) (r : RunResult) : (testsuites name r).WellNamed := by
  have keys : ∀ key ∈ ["name", "tests", "failures", "errors", "time"], Xml.IsName key := by decide
  have poolKeys : ∀ key ∈ ["name", "tests", "failures", "errors", "skipped", "time"],
      Xml.IsName key := by decide
  refine ⟨by decide, Xml.isName_of_keys keys, Xml.allWellNamed_iff.2 fun suite hs => ?_⟩
  obtain ⟨p, -, rfl⟩ := List.mem_map.1 hs
  refine ⟨by decide, Xml.isName_of_keys poolKeys, Xml.allWellNamed_iff.2 fun e he => ?_⟩
  obtain ⟨result, -, rfl⟩ := List.mem_map.1 he
  exact wellNamed_testcase result

/-- **The report tells what was tested.** Whatever the names and the traces of a run hold, its report
is read back, and has a suite for each pool and in it a test case for each result, in order, that
tells of it. -/
theorem read_render (name : String) (r : RunResult) :
    ∃ root, Xml.read? (render name r) = some root ∧ root.name? = some "testsuites" ∧
      root.attribute? "name" = some name ∧
      List.Forall₂ TellsPool r.pools (root.named "testsuite") := by
  refine ⟨_, Xml.read?_render _ (wellNamed_testsuites name r), rfl, rfl, ?_⟩
  have suites : ((testsuites name r).node 0).named "testsuite" =
      r.pools.map fun p => (testsuite p).node 1 :=
    Xml.named_branch_map (fun p => show (testsuite p).name = "testsuite" from rfl) _ _ _
  rw [suites]
  exact List.forall₂_map_right_iff.2 (List.forall₂_same.2 fun p _ => tellsPool_testsuite p _)

/-- A run with one test that failed and said so in one character. -/
def pictured : RunResult where
  runId := default
  pools :=
    let identity : ResultIdentity := ⟨⟨"omni"⟩, ⟨"a"⟩, ⟨"", "C", "m", "unit", [], []⟩⟩
    let result := { TestResult.ofStatus identity .fail default with trace := some "😀" }
    [⟨identity.pool, [result], [], 0, []⟩]
  duration := default
  ignoreFailures := false
  retriesUsed := 0

/-- The character is legal, and the report does not tell it. -/
theorem picture_not_told : isLegal '😀' = true ∧ ∃ root,
    Xml.read? (render defaultName pictured) = some root ∧
      (((root.named "testsuite").flatMap (Node.named "testcase")).flatMap
        (Node.named "failure")).map Node.soleText? = [some ""] := by
  refine ⟨by decide, _, Xml.read?_render _ (wellNamed_testsuites defaultName pictured), ?_⟩
  rfl

end TestFleet.Report.JUnit
