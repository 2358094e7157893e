import FlowCheck.Run.Deed

/-!
# The state of a run

A run has several parties: the runner, which writes the document, waits for the two drains and then
for the checker; the drains, each of which gathers one output stream; the watchdog, which kills the
checker at its deadline; and the checker with the processes that it started. They meet in three
pipes and in the lock on the checker.

Apart from what the parties do next, a state keeps what went through each pipe, so that nothing has
to be said about the past of a state.
-/

namespace FlowCheck

/-- The two streams that a checker writes. -/
inductive Outlet where
  | output
  | errors
  deriving Repr, DecidableEq

/-- The name of an outlet. -/
def Outlet.streamName : Outlet → StreamName
  | .output => .stdout
  | .errors => .stderr

/-- What a drain is doing. -/
inductive DrainState where
  | reading
  /-- It came to the end of its stream. -/
  | ended
  /-- It could not read on. -/
  | failed
  deriving Repr, DecidableEq

/-- One output stream, from the processes to its drain. -/
structure Outflow where
  /-- All that was written to it. -/
  written : List UInt8 := []
  /-- What is in the pipe. -/
  inPipe : List UInt8 := []
  /-- What the drain has gathered. -/
  gathered : List UInt8 := []
  drain : DrainState := .reading
  deriving Repr, DecidableEq

/-- The ends of the pipes that a process has open. -/
structure Ends where
  input : Bool := true
  output : Bool := true
  errors : Bool := true
  deriving Repr, DecidableEq

namespace Ends

/-- No end is open. -/
def none : Ends := ⟨false, false, false⟩

/-- Whether the end of an outlet is open. -/
def outlet (ends : Ends) : Outlet → Bool
  | .output => ends.output
  | .errors => ends.errors

/-- The ends that are open in both. -/
def inter (a b : Ends) : Ends :=
  ⟨a.input && b.input, a.output && b.output, a.errors && b.errors⟩

/-- The ends without one. -/
def close (ends : Ends) : StreamName → Ends
  | .stdin => { ends with input := false }
  | .stdout => { ends with output := false }
  | .stderr => { ends with errors := false }

end Ends

/-- The checker, or a process that it started. -/
structure ProcessState where
  ends : Ends := {}
  /-- How the process ended, if it did. -/
  ending : Option Ending := none
  /-- Whether the process has read to the end of its input. -/
  sawEnd : Bool := false
  deriving Repr, DecidableEq

/-- Whether a process has not ended. -/
def ProcessState.isAlive (process : ProcessState) : Bool :=
  process.ending.isNone

/-- A process that has ended; all its ends are closed. -/
def ProcessState.finish (process : ProcessState) (ending : Ending) : ProcessState :=
  { process with ends := .none, ending := some ending }

/-- What the watchdog is doing. -/
inductive WatchdogState where
  /-- There is no deadline. -/
  | absent
  | armed
  /-- The deadline passed, and the watchdog wants the lock. -/
  | expired
  /-- It has the lock and is about to look at the checker. -/
  | holding
  /-- It found the checker alive and is about to kill it. -/
  | striking
  /-- It is done, and either killed the checker or did not try to. -/
  | dismissed (killed : Bool)
  /-- It is done, but the checker could not be killed. -/
  | thwarted
  deriving Repr, DecidableEq

namespace WatchdogState

/-- Whether the watchdog has the lock. -/
def holdsLock : WatchdogState → Bool
  | holding | striking => true
  | _ => false

/-- Whether the watchdog is done. -/
def isDone : WatchdogState → Bool
  | dismissed _ | thwarted => true
  | _ => false

end WatchdogState

/-- What a run comes to. -/
inductive RunOutcome where
  /-- The watchdog killed the checker. -/
  | timedOut
  /-- The document could not be written. -/
  | inputFailed
  /-- A stream could not be read. -/
  | drainFailed (outlet : Outlet)
  | finished (output : List UInt8) (ending : Ending)
  deriving Repr, DecidableEq

/-- What the runner is doing. -/
inductive RunnerStage where
  | writing
  /-- Waiting for the drain of an outlet. -/
  | joining (outlet : Outlet)
  | cancelling
  | awaitingWatchdog
  | locking
  /-- It has the lock and waits for the checker's end. -/
  | waiting
  | returned (outcome : RunOutcome)
  deriving Repr, DecidableEq

/-- Whether the runner has the lock. -/
def RunnerStage.holdsLock : RunnerStage → Bool
  | .waiting => true
  | _ => false

/-- The processes of a run: the checker, or one of those that it started, by its number. -/
inductive Actor where
  | checker
  | descendant (number : Nat)
  deriving Repr, DecidableEq

/-- The state of a run. -/
structure RunState where
  /-- The part of the document that is not written yet. -/
  unsent : List UInt8
  /-- What is in the pipe to the checker. -/
  inPipe : List UInt8 := []
  /-- All that was read from that pipe. -/
  consumed : List UInt8 := []
  /-- Whether the runner's end of that pipe is open. -/
  inputOpen : Bool := true
  /-- Whether writing the document failed. -/
  writeFailed : Bool := false
  output : Outflow := {}
  errors : Outflow := {}
  stage : RunnerStage := .writing
  /-- Whether the watchdog was told that it is not needed. -/
  cancelled : Bool := false
  watchdog : WatchdogState
  checker : ProcessState := {}
  descendants : List ProcessState := []
  deriving Repr, DecidableEq

namespace RunState

/-- The state in which a run begins. -/
def initial (document : List UInt8) (hasDeadline : Bool) : RunState where
  unsent := document
  watchdog := if hasDeadline then .armed else .absent

/-- The flow of an outlet. -/
def outflow (state : RunState) : Outlet → Outflow
  | .output => state.output
  | .errors => state.errors

/-- A state with another flow of an outlet. -/
def withOutflow (state : RunState) (outlet : Outlet) (outflow : Outflow) : RunState :=
  match outlet with
  | .output => { state with output := outflow }
  | .errors => { state with errors := outflow }

/-- The state of a process. -/
def process? (state : RunState) : Actor → Option ProcessState
  | .checker => some state.checker
  | .descendant number => state.descendants[number]?

/-- A state with another state of a process. -/
def withProcess (state : RunState) (actor : Actor) (process : ProcessState) : RunState :=
  match actor with
  | .checker => { state with checker := process }
  | .descendant number => { state with descendants := state.descendants.set number process }

/-- Whether any process passes a test. -/
def anyProcess (state : RunState) (test : ProcessState → Bool) : Bool :=
  test state.checker || state.descendants.any test

/-- Whether any process can still read the input. -/
def hasReader (state : RunState) : Bool :=
  state.anyProcess fun process => process.ends.input

/-- Whether any process can still write to an outlet. -/
def hasWriter (state : RunState) (outlet : Outlet) : Bool :=
  state.anyProcess fun process => process.ends.outlet outlet

/-- What the runner answers once the checker has ended. A kill by the watchdog hides everything that
it may have caused; a failure to write comes before one to read. -/
def outcome (state : RunState) (ending : Ending) : RunOutcome :=
  if state.watchdog = .dismissed true then .timedOut
  else if state.writeFailed then .inputFailed
  else if state.output.drain = .failed then .drainFailed .output
  else if state.errors.drain = .failed then .drainFailed .errors
  else .finished state.output.gathered ending

end RunState

end FlowCheck
