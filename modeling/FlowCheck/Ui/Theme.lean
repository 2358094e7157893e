import FlowCheck.Report.Style

/-!
# Themes of status lines

A theme gives each kind of status line its style; the sign in front of it does not depend on the
theme.
-/

namespace FlowCheck

/-- The styles of status lines. -/
structure Theme where
  success : Style := {}
  warning : Style := {}
  error : Style := {}
  dim : Style := {}
  deriving Repr, DecidableEq

namespace Theme

/-- No line has a style. -/
def plain : Theme := {}

/-- Lines are coloured by their kind. -/
def coloured : Theme where
  success := { colour := some .green }
  warning := { colour := some .yellow }
  error := { colour := some .red, bold := true }
  dim := { dim := true }

/-- A styled text. -/
def line (style : Style) (text : String) : String :=
  String.ofList (style.paint text.toList)

/-- A line about a success. -/
def successLine (theme : Theme) (text : String) : String :=
  line theme.success s!"✓ {text}"

/-- A line about something to be careful about. -/
def warningLine (theme : Theme) (text : String) : String :=
  line theme.warning s!"⚠ {text}"

/-- A line about a failure. -/
def errorLine (theme : Theme) (text : String) : String :=
  line theme.error s!"✗ {text}"

end Theme

end FlowCheck
