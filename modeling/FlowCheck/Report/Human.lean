import FlowCheck.Report
import FlowCheck.Report.Style

/-!
# Reports for people

Each diagnostic is shown with its location and with the line it starts on, where carets underline
its characters. A summary closes the report. Colours only add escape sequences.
-/

namespace FlowCheck

/-- The style of a severity's name. -/
def Severity.style : Severity → Style
  | .error => { colour := some .red, bold := true }
  | .warning => { colour := some .yellow, bold := true }

/-- The style of the bar between line numbers and text. -/
def Style.bar : Style :=
  { dim := true }

/-- The style of the carets. -/
def Style.caret : Style :=
  { colour := some .red }

/-- A text, in its style if colours are wanted. -/
def painted (colours : Bool) (style : Style) (text : List Char) : List Char :=
  if colours then style.paint text else text

/-- A line of text without the carriage returns at its end. -/
def trimReturns (line : List Char) : List Char :=
  (line.reverse.dropWhile (· = '\r')).reverse

namespace Report

/-- How many carets stand below a line for a range that starts on it: as many as the range has
characters there, but at least one. -/
def underlineWidth (lineLength : Nat) (column : Nat) (range : TextRange) : Nat :=
  max 1 (min range.length (lineLength - column))

/-- The lines that show where a range starts. -/
def snippet (report : Report) (colours : Bool) (range : TextRange) : List Char :=
  match report.document.position? range.start with
  | none => []
  | some position =>
    match report.document.line? position.line with
    | none => []
    | some line =>
      let number := Nat.toDigits 10 (position.line + 1)
      let margin := List.replicate number.length ' '
      let bar := painted colours .bar ['|']
      let carets := List.replicate (underlineWidth line.length position.column range) '^'
      [' '] ++ margin ++ [' '] ++ bar ++ ['\n'] ++
      [' '] ++ number ++ [' '] ++ bar ++ [' '] ++ trimReturns line ++ ['\n'] ++
      [' '] ++ margin ++ [' '] ++ bar ++ [' '] ++ List.replicate position.column ' ' ++
        painted colours .caret carets ++ ['\n']

/-- The lines about one diagnostic, with a blank line after them. -/
def entry (report : Report) (colours : Bool) (diagnostic : Diagnostic) : List Char :=
  let location := report.locate diagnostic.range.start
  painted colours diagnostic.severity.style diagnostic.severity.name.toList ++
    s!": {diagnostic.message}\n  --> {report.file}:{location.line}:{location.column}\n".toList ++
    report.snippet colours diagnostic.range ++ ['\n']

/-- The line that counts the diagnostics, if there are any. -/
def totals (report : Report) : List Char :=
  let errors := report.count .error
  let warnings := report.count .warning
  if errors > 0 ∨ warnings > 0 then
    s!"Found {errors} error(s) and {warnings} warning(s)\n".toList
  else []

/-- The report for people. -/
def human (report : Report) (colours : Bool) : String :=
  String.ofList (report.diagnostics.flatMap (report.entry colours) ++ report.totals)

end Report

end FlowCheck
