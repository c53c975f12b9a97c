import TestFleet.Report
import TestFleet.Host
/-!
# Reports in files

When a run is complete a report is written to its path; directories that are missing are made.
What cannot be written is left out: a report never changes how a run ends.
-/
namespace TestFleet.Report

/-- Writes a text to a path, with the directories above it. -/
def save (path text : String) (h : Host) : Host :=
  match h.files.makeParents path with
  | .error _ => h
  | .ok files =>
    match files.write path (Text.Utf8.encode text.toList) with
    | .error _ => { h with files }
    | .ok files => { h with files }

variable {W : Type} [Hosted W]

/-- The report that a text at a path makes. -/
def file (path : String) (render : RunResult → String) : Reporter W where
  started _ := .give ()
  tested _ := .give ()
  completed r := Action.change (Hosted.modify (save path (render r)))

end TestFleet.Report
