import FlowCheck.Ui
import FlowCheck.Ui.Theme

/-!
# Terminals

The report goes to standard output and everything else to standard error. In quiet mode only errors
and the report are written. A spinner draws on a terminal alone and writes nothing elsewhere.
-/

namespace FlowCheck

/-- The spinner that turns for an act: on a terminal, if the mode shows spinners. -/
def Act.spinner? (mode : OutputMode) (onTerminal : Bool) : Act → Option String
  | .spin text => if mode.showsSpinners && onTerminal then some text else none
  | _ => none

/-- What a program wrote on its two outputs. -/
structure Written where
  output : String := ""
  errors : String := ""
  deriving Repr, DecidableEq

namespace Written

/-- What was written, and then the text of one more act. -/
def add (written : Written) (theme : Theme) (mode : OutputMode) : Act → Written
  | .message text => status s!"{text}\n"
  | .success text => status s!"{theme.successLine text}\n"
  | .warning text => status s!"{theme.warningLine text}\n"
  | .error text => { written with errors := written.errors ++ s!"{theme.errorLine text}\n" }
  | .emit text => { written with output := written.output ++ text }
  | .spin _ => written
where
  /-- A status line, if the mode shows it. -/
  status (line : String) : Written :=
    if mode.showsStatus then { written with errors := written.errors ++ line } else written

/-- What is written for a list of acts. -/
def ofActs (theme : Theme) (mode : OutputMode) (acts : List Act) : Written :=
  acts.foldl (fun written act => written.add theme mode act) {}

end Written

end FlowCheck
