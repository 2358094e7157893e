import FlowCheck.Report.Human
import FlowCheck.Report.Json

/-!
# Rendering reports

A report is rendered in one of its forms.
-/

namespace FlowCheck

/-- The text of a report in a form. Colours are only for people. -/
def Report.render (report : Report) (colours : Bool) : ReportFormat → String
  | .human => report.human colours
  | .json => report.json

end FlowCheck
