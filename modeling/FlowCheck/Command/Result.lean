import FlowCheck.Failure
import FlowCheck.Ui

/-!
# Results of commands

What a command shows on its way, and how it ends.
-/

namespace FlowCheck

/-- The end of a command. -/
structure CommandResult where
  success : Bool
  exitCode : Nat
  deriving Repr, DecidableEq

namespace CommandResult

/-- The command did what it was asked for. -/
def succeeded : CommandResult := ⟨true, 0⟩

/-- The command ended with an exit code of its own. -/
def failed (exitCode : Nat) : CommandResult := ⟨false, exitCode⟩

end CommandResult

/-- What a command shows, and its end unless something failed. -/
structure CommandRun where
  acts : List Act := []
  result : Except Failure CommandResult

/-- A command that failed before it showed anything. -/
def CommandRun.failure (failure : Failure) : CommandRun :=
  ⟨[], .error failure⟩

/-- A failure of the system as the failure of a command. -/
def orFail {α : Type} : Except SystemError α → Except Failure α
  | .ok value => .ok value
  | .error cause => .error (.system cause)

end FlowCheck
