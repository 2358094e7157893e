import FlowCheck.Launch
import FlowCheck.Files.Program
import FlowCheck.Run.Schedule
import FlowCheck.Shell.Evaluation
import FlowCheck.Text.Lossy

/-!
# Hosts

What the program finds where it is started, and the runs of a checker that can be made there.
-/

namespace FlowCheck

/-- What the program finds where it is started. -/
structure Host where
  files : Files
  home : Option String := none
  /-- The directories in which programs are looked up, separated by colons. -/
  searchPath : Option String := none
  /-- The checker that the environment names. -/
  checker : Option String := none
  /-- What stands on standard input. -/
  input : ByteArray := ByteArray.empty
  /-- Whether what is written can be coloured. -/
  colours : Bool := false

/-- What a launch leaves when its run came to an end after some time. -/
def RunOutcome.result (deadline : Option Nat) (elapsed : Nat) :
    RunOutcome → Except Failure Finished
  | .timedOut => .error (.timedOut (deadline.getD 0 / 1000))
  | .inputFailed => .error (.streamFailed .stdin .brokenPipe)
  | .drainFailed outlet => .error (.streamFailed outlet.streamName (.other "read failed"))
  | .finished output ending => .ok ⟨Text.ofBytes output, ending.exitCode, elapsed⟩

/-- What a launch that cannot be started fails with. -/
def startFailure (executable : String) : SystemError → Failure
  | .notFound => .executableNotFound executable
  | .permissionDenied => .notExecutable executable
  | cause => .spawnFailed executable cause

namespace Host

/-- The variables that a program is started with. -/
def environment (host : Host) : List (String × String) :=
  [("HOME", host.home), ("PATH", host.searchPath), ("FLOWTC_FLOW_PATH", host.checker)].filterMap
    fun (name, value) => value.map fun value => (name, value)

/-- The files as they are seen from the directory of a launch. -/
def filesFor (host : Host) (launch : Launch) : Except Failure Files :=
  let missing := Failure.spawnFailed launch.executable
    (.other s!"working directory {launch.directory} does not exist")
  match host.files.locate launch.directory with
  | .ok place =>
    if (host.files.root.get? place).any Node.isDirectory then .ok ⟨host.files.root, place⟩
    else .error missing
  | .error _ => .error missing

/-- The program that a launch starts. -/
def invocation (host : Host) (launch : Launch) : Except Failure Invocation := do
  match (← host.filesFor launch).start host.searchPath launch.executable launch.arguments with
  | .ok started => .ok started
  | .error cause => .error (startFailure launch.executable cause)

/-- Carry out a launch. -/
def run (host : Host) (launch : Launch) : Except Failure Finished := do
  let started ← host.invocation launch
  let files ← host.filesFor launch
  let deeds := Shell.deedsOf files.root files.directory host.environment launch.input
    started.program started.arguments
  match runDeeds launch.input.toUTF8.toList launch.deadline deeds with
  | some (outcome, elapsed) => outcome.result launch.deadline elapsed
  | none => .error (.interrupted "the checker does not end")

end Host

end FlowCheck
