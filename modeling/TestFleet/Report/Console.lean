import TestFleet.Report
import TestFleet.Host
/-!
# The report on the console

A run begins with a line about its size and ends with a summary. Between them a progress bar takes
the place of lines about single tests; without a bar a failed test has its line, and when the
report is verbose every test has one.
-/
namespace TestFleet.Console

/-- The label of a status, four characters wide. -/
def label : TestStatus → String
  | .pass => "PASS"
  | .fail => "FAIL"
  | .error => "ERR "
  | .ignored | .assumptionFailed => "SKIP"
  | .unknown => "????"

/-- The line at the start of a run. -/
def startLine (plans : List PoolPlan) : String :=
  "Running " ++ toString (PoolPlan.itemCount plans) ++ " test(s) across "
    ++ toString plans.length ++ " pool(s) and " ++ toString (PoolPlan.deviceCount plans)
    ++ " device(s)"

/-- The line about a test. -/
def testLine (r : TestResult) : String :=
  label r.status ++ " [" ++ r.pool.name ++ "/" ++ r.device.serial ++ "] " ++ r.test.display

/-- The lines about a pool. -/
def poolLines (p : PoolResult) : List String :=
  let skipped := p.count (· == .ignored) + p.count (· == .assumptionFailed)
  let counts := toString (p.count (· == .pass)) ++ " passed, " ++ toString (p.count (· == .fail))
    ++ " failed, " ++ toString (p.count (· == .error)) ++ " errors, " ++ toString skipped
    ++ " skipped"
  let retired := p.devices.filterMap fun d =>
    d.retired.map fun reason => "    retired " ++ d.device.serial ++ ": " ++ reason
  ("  " ++ p.pool.name ++ " " ++ counts) :: retired

/-- The first line of a trace that is not blank. -/
def firstLine? (trace : String) : Option String :=
  ((Text.lines trace.toList).find? fun line => !(Text.trimChars line).isEmpty).map String.ofList

/-- The lines about a test that failed. -/
def failureLines (r : TestResult) : List String :=
  let which :=
    "  - " ++ r.test.display ++ " on " ++ r.pool.name ++ "/" ++ r.device.serial
  match r.trace.bind firstLine? with
  | some line => [which, "    " ++ line]
  | none => [which]

/-- The lines about how a run ended. -/
def verdictLines (r : RunResult) : List String :=
  if r.failed + r.errors == 0 then ["All tests passed!"]
  else
    [if r.ignoreFailures then "Some tests failed (ignored)." else "Some tests failed.", "",
      "Failed tests:"]
      ++ (r.results.filter (·.status.isFailure)).flatMap failureLines

/-- The lines at the end of a run. -/
def summaryLines (r : RunResult) : List String :=
  ["", "Test Results:"] ++ r.pools.flatMap poolLines
    ++ ["  Total:    " ++ toString r.total, "  Retries:  " ++ toString r.retriesUsed,
      "  Duration: " ++ r.duration.text, ""]
    ++ verdictLines r

/-- Prints lines. -/
def printAll (lines : List String) (h : Host) : Host := lines.foldl Host.print h

variable {W : Type} [Hosted W]

/-- The console as a reporter. -/
def reporter (verbose : Bool) : Reporter W where
  started plans := Action.change <| Hosted.modify fun h =>
    { h.print (startLine plans) with showsProgress := true }
  tested r := Action.change <| Hosted.modify fun h =>
    if h.showsProgress then h
    else if verbose || r.status.isFailure then h.print (testLine r)
    else h
  completed r := Action.change <| Hosted.modify fun h =>
    { printAll (summaryLines r) h with showsProgress := false }

end TestFleet.Console
