import FlowCheck.Ui

/-!
# Recordings

A recording keeps every act, sorted by its kind, whatever the mode.
-/

namespace FlowCheck

/-- All that was shown so far. -/
structure Recording where
  messages : List String := []
  successes : List String := []
  warnings : List String := []
  errors : List String := []
  spinners : List String := []
  emitted : String := ""
  deriving Repr, DecidableEq

namespace Recording

/-- A recording with one more act. -/
def record (recording : Recording) : Act → Recording
  | .message text => { recording with messages := recording.messages ++ [text] }
  | .success text => { recording with successes := recording.successes ++ [text] }
  | .warning text => { recording with warnings := recording.warnings ++ [text] }
  | .error text => { recording with errors := recording.errors ++ [text] }
  | .emit text => { recording with emitted := recording.emitted ++ text }
  | .spin text => { recording with spinners := recording.spinners ++ [text] }

/-- The recording of a list of acts. -/
def ofActs (acts : List Act) : Recording :=
  acts.foldl record {}

end Recording

/-- What a spinner was told so far. -/
structure SpinnerRecording where
  messages : List String := []
  finish : Option String := none
  deriving Repr, DecidableEq

/-- A spinner's recording with one more act. Clearing the spinner leaves no trace. -/
def SpinnerRecording.record (recording : SpinnerRecording) : SpinnerAct → SpinnerRecording
  | .say text => { recording with messages := recording.messages ++ [text] }
  | .finish text => { recording with finish := some text }
  | .clear => recording

end FlowCheck
