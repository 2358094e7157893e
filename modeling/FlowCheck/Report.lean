import FlowCheck.Diagnostic
import FlowCheck.Document

/-!
# Reports

A report is the list of a file's diagnostics together with the text that they point into. What it
says about places counts lines and columns from one.
-/

namespace FlowCheck

/-- The diagnostics of one file, in the checker's order. -/
structure Report where
  file : String
  document : Document
  diagnostics : List Diagnostic

/-- The forms that a report is written in. -/
inductive ReportFormat where
  | human
  | json
  deriving Repr, DecidableEq

/-- A place as people count: from one. -/
structure Location where
  line : Nat := 1
  column : Nat := 1
  deriving Repr, DecidableEq

namespace Report

/-- How many diagnostics have a severity. -/
def count (report : Report) (severity : Severity) : Nat :=
  (report.diagnostics.filter fun diagnostic => diagnostic.severity = severity).length

/-- The location of an offset. What lies outside the text is located at its beginning. -/
def locate (report : Report) (offset : Nat) : Location :=
  match report.document.position? offset with
  | some position => ⟨position.line + 1, position.column + 1⟩
  | none => {}

end Report

end FlowCheck
