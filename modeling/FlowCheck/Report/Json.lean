import FlowCheck.Json.Printer
import FlowCheck.Report

/-!
# Reports for tools

A report is written as one JSON object: the file, its diagnostics with offsets and locations, and a
summary that counts them.
-/

namespace FlowCheck

open Json

namespace Report

/-- A diagnostic as JSON. -/
def diagnosticJson (report : Report) (diagnostic : Diagnostic) : Value :=
  let start := report.locate diagnostic.range.start
  let stop := report.locate diagnostic.range.stop
  .object [
    ("severity", .text diagnostic.severity.name),
    ("message", .text diagnostic.message),
    ("start", .ofNat diagnostic.range.start),
    ("end", .ofNat diagnostic.range.stop),
    ("line", .ofNat start.line),
    ("column", .ofNat start.column),
    ("end_line", .ofNat stop.line),
    ("end_column", .ofNat stop.column)]

/-- The report as JSON. -/
def toJson (report : Report) : Value :=
  .object [
    ("file", .text report.file),
    ("diagnostics", .array (report.diagnostics.map report.diagnosticJson)),
    ("summary", .object [
      ("total", .ofNat report.diagnostics.length),
      ("errors", .ofNat (report.count .error)),
      ("warnings", .ofNat (report.count .warning))])]

/-- The report for tools, with a newline after it. -/
def json (report : Report) : String :=
  String.ofList (report.toJson.pretty 0 ++ ['\n'])

end Report

end FlowCheck
