import TestFleet.Report.File
import TestFleet.Run.Document
import TestFleet.Json.Printer
/-!
# The report in JSON

The whole run as one document on indented lines: first the counts, then the fields of the run.
-/
namespace TestFleet.Report.Json

/-- The document of a run. -/
def document (r : RunResult) : Datum := .table (("summary", r.summaryDatum) :: r.entries)

/-- The text of the report. -/
def render (r : RunResult) : String := TestFleet.Json.pretty (document r)

/-- The reporter that writes it. -/
def reporter {W : Type} [Hosted W] (path : String) : Reporter W := file path render

end TestFleet.Report.Json
