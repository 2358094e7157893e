import FlowCheck.Command.Check
import FlowCheck.Command.Completions
import FlowCheck.Command.Config
import FlowCheck.CommandLine.Reader
import FlowCheck.Ui.Terminal

/-!
# The program

A command line is read and its command carried out. What the command shows goes to a terminal, and
what fails is shown last.
-/

namespace FlowCheck

namespace CommandLine

/-- How much is shown. Being quiet goes before being verbose. -/
def mode (line : CommandLine) : OutputMode :=
  if line.quiet then .quiet else if line.verbose then .verbose else .normal

/-- Carry out the command, with the runs of the checker given. -/
def run (line : CommandLine) (host : Host) (launch : Launch → Except Failure Finished)
    (mode : OutputMode) : Logged CommandRun :=
  match line.command with
  | .check options => options.run host launch line mode
  | .config json => return line.showSettings host json
  | .completions shell => return shell.emit

end CommandLine

/-- All that is shown of a command: what failed comes last. -/
def CommandRun.allActs (run : CommandRun) : List Act :=
  match run.result with
  | .ok _ => run.acts
  | .error failure => run.acts ++ [.error s!"Error: {failure.message}"]

/-- The exit code of a command. -/
def CommandRun.exitCode (run : CommandRun) : Nat :=
  match run.result with
  | .ok result => result.exitCode
  | .error _ => failureExit

/-- What the program leaves: what it wrote, and its exit code. -/
structure ProgramRun where
  written : Written
  exitCode : Nat
  deriving Repr, DecidableEq

/-- The program on a host, with its arguments and the runs of the checker. -/
def Host.execute (host : Host) (launch : Launch → Except Failure Finished) (words : List String) :
    ProgramRun :=
  match CommandLine.read host.checker words with
  | .error usage =>
    if usage.isAnswer then ⟨{ output := usage.message }, 0⟩
    else ⟨{ errors := usage.message }, failureExit⟩
  | .ok line =>
    let run := (line.run host launch line.mode).value
    let theme := if host.colours && !line.noColour then Theme.coloured else .plain
    ⟨.ofActs theme line.mode run.allActs, run.exitCode⟩

end FlowCheck
