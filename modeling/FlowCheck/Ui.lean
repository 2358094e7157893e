import FlowCheck.Diagnostic

/-!
# What a command shows

A command shows its progress by a list of acts: status lines, a spinner, and the report itself. The
mode says how much of it a terminal shows, and whether details are told at all.
-/

namespace FlowCheck

/-- How much is shown. -/
inductive OutputMode where
  | verbose
  | normal
  | quiet
  deriving Repr, DecidableEq

namespace OutputMode

/-- The name of a mode. -/
def name : OutputMode → String
  | .verbose => "Verbose"
  | .normal => "Normal"
  | .quiet => "Quiet"

/-- The mode that a text names; letter case does not matter. -/
def ofText? (text : String) : Option OutputMode :=
  let lower := text.toList.map asciiLower
  [verbose, normal, quiet].find? fun mode => mode.name.toList.map asciiLower = lower

/-- What is said of a text that names no mode. -/
def unknownMessage (text : String) : String :=
  s!"unknown output mode: {text}"

/-- Whether details are told. -/
def showsDetails : OutputMode → Bool
  | .verbose => true
  | .normal | .quiet => false

/-- Whether spinners turn. -/
def showsSpinners : OutputMode → Bool
  | .verbose | .normal => true
  | .quiet => false

/-- Whether status lines are shown. -/
def showsStatus : OutputMode → Bool
  | .verbose | .normal => true
  | .quiet => false

end OutputMode

/-- One act of showing something. -/
inductive Act where
  /-- A line that informs. -/
  | message (text : String)
  /-- A line about a success. -/
  | success (text : String)
  /-- A line about something to be careful about. -/
  | warning (text : String)
  /-- A line about a failure. -/
  | error (text : String)
  /-- A part of the report. -/
  | emit (text : String)
  /-- A spinner appears. -/
  | spin (text : String)
  deriving Repr, DecidableEq

/-- What a spinner is told. -/
inductive SpinnerAct where
  | say (text : String)
  | finish (text : String)
  | clear
  deriving Repr, DecidableEq

end FlowCheck
