import TestFleet.Report.File
import TestFleet.Xml.Document
import TestFleet.Decimal.Notation
/-!
# The report in JUnit XML

Each pool is a suite and each final result a test case with its device as a property. FAIL becomes
a failure, ERROR and UNKNOWN an error, and the ignored statuses are marked as skipped. A trace
loses the characters that the report does not carry; its first line is the message.
-/
namespace TestFleet.Report.JUnit

open Xml (Element)

/-- The characters that a trace keeps. -/
def isCarried (c : Char) : Bool :=
  c == '\t' || c == '\n' || c == '\r' || (0x20 ≤ c.toNat && c.toNat ≤ 0xD7FF)
    || (0xE000 ≤ c.toNat && c.toNat ≤ 0xFFFD)

/-- A trace as the report carries it. -/
def cleaned (trace : String) : String := String.ofList (trace.toList.filter isCarried)

/-- Seconds with three decimals. -/
def secondsText (seconds : Float) : String := Decimal.fixed 3 seconds

/-- The first line of a text, if it has one. -/
def firstLine? (text : String) : Option String :=
  (Text.lines text.toList).head?.map String.ofList

/-- The name of the element that tells of a problem. -/
def problemName : TestStatus → Option String
  | .fail => some "failure"
  | .error | .unknown => some "error"
  | .pass | .ignored | .assumptionFailed => none

/-- The element of a problem. -/
def problem (name : String) (status : TestStatus) (trace : Option String) : Element :=
  let kind := ("type", status.name)
  match trace.map cleaned with
  | none => .branch name [kind] []
  | some text =>
    let message := match firstLine? text with | some line => [("message", line)] | none => []
    .leaf name (message ++ [kind]) text

/-- The elements that tell how a test ended. -/
def ending (r : TestResult) : List Element :=
  match problemName r.status with
  | some name => [problem name r.status r.trace]
  | none => if r.status = .pass then [] else [.single "skipped" []]

/-- The element of a result. -/
def testcase (r : TestResult) : Element :=
  .branch "testcase"
    [("classname", r.test.qualifiedClass), ("name", r.test.method),
      ("time", secondsText r.duration.seconds)]
    (.branch "properties" []
        [.single "property" [("name", "device"), ("value", r.device.serial)]]
      :: ending r)

/-- The seconds of several results together; of none, negative zero. -/
def totalSeconds (results : List TestResult) : Float :=
  results.foldl (fun sum r => sum + r.duration.seconds) (-0.0)

/-- The element of a pool. -/
def testsuite (p : PoolResult) : Element :=
  let skipped := p.count (· == .ignored) + p.count (· == .assumptionFailed)
  .branch "testsuite"
    [("name", p.pool.name), ("tests", toString p.results.length),
      ("failures", toString (p.count (· == .fail))),
      ("errors", toString (p.count (· == .error))), ("skipped", toString skipped),
      ("time", secondsText (totalSeconds p.results))]
    (p.results.map testcase)

/-- The element of a run. -/
def testsuites (name : String) (r : RunResult) : Element :=
  .branch "testsuites"
    [("name", name), ("tests", toString r.total), ("failures", toString r.failed),
      ("errors", toString r.errors), ("time", secondsText r.duration.seconds)]
    (r.pools.map testsuite)

/-- The name of a report that is given none. -/
def defaultName : String := "poolrun"

/-- The text of the report. -/
def render (name : String) (r : RunResult) : String := Xml.render (testsuites name r)

/-- The reporter that writes it. -/
def reporter {W : Type} [Hosted W] (path name : String) : Reporter W := file path (render name)

end TestFleet.Report.JUnit
