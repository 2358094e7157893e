import FlowCheck.Run.State

/-!
# The steps of a run

What each party of a run can do in a state. No order among the parties is assumed: a state is
reachable if any sequence of steps leads to it.
-/

namespace FlowCheck

/-- A step of one of the parties. -/
inductive RunEvent where
  /-- The runner writes some bytes of the document. -/
  | send (count : Nat)
  /-- The runner finds that nobody will read the document. -/
  | sendFails
  /-- The runner cannot write on, for some other reason. -/
  | sendBreaks
  /-- The runner closes its end of the input. -/
  | closeInput
  /-- The runner sees that a drain is done. -/
  | join (outlet : Outlet)
  /-- The runner tells the watchdog that it is not needed. -/
  | cancel
  /-- The runner sees that the watchdog is done. -/
  | joinWatchdog
  /-- The runner takes the lock. -/
  | lock
  /-- The runner sees that the checker has ended, and returns. -/
  | reap
  /-- A drain reads some bytes. -/
  | drain (outlet : Outlet) (count : Nat)
  /-- A drain comes to the end of its stream. -/
  | drainEnds (outlet : Outlet)
  /-- A drain cannot read on. -/
  | drainFails (outlet : Outlet)
  /-- The deadline passes. -/
  | expire
  /-- The watchdog hears that it is not needed. -/
  | heed
  /-- The watchdog takes the lock. -/
  | takeLock
  /-- The watchdog looks whether the checker has ended. -/
  | poll
  /-- The watchdog kills the checker. -/
  | kill
  /-- The watchdog cannot kill the checker. -/
  | killFails
  /-- A process reads some bytes. -/
  | reads (actor : Actor) (count : Nat)
  /-- A process comes to the end of its input. -/
  | seesEnd (actor : Actor)
  /-- A process writes some bytes. -/
  | writes (actor : Actor) (outlet : Outlet) (bytes : List UInt8)
  /-- A process closes a stream. -/
  | closes (actor : Actor) (stream : StreamName)
  /-- A process starts another one, which has some of its ends open. -/
  | forks (actor : Actor) (ends : Ends)
  /-- A process ends. -/
  | ends (actor : Actor) (ending : Ending)
  deriving Repr, DecidableEq

/-- Whether a step is one that the runner or its helpers take by themselves. That a write, a read or
a kill fails or that the deadline passes happens to them, and the other steps are those of the
processes. -/
def RunEvent.isRunner : RunEvent → Bool
  | .reads .. | .seesEnd _ | .writes .. | .closes .. | .forks .. | .ends .. => false
  | .sendBreaks | .drainFails _ | .killFails | .expire => false
  | _ => true

/-- How many bytes each of the three pipes holds. -/
structure Capacities where
  input : Nat
  output : Nat
  errors : Nat
  deriving Repr, DecidableEq

/-- How many bytes the pipe of an outlet holds. -/
def Capacities.outlet (capacities : Capacities) : Outlet → Nat
  | .output => capacities.output
  | .errors => capacities.errors

namespace RunState

/-- The next state if a condition holds. -/
def next (condition : Bool) (state : RunState) : Option RunState :=
  if condition then some state else none

/-- A step of a process that has not ended. -/
def byProcess (state : RunState) (actor : Actor) (step : ProcessState → Option RunState) :
    Option RunState :=
  match state.process? actor with
  | some process => if process.isAlive then step process else none
  | none => none

/-- The state after a step, if the step is possible. No pipe holds more than its capacity. -/
def apply (capacities : Capacities) (state : RunState) : RunEvent → Option RunState
  | .send count =>
    next (state.stage = .writing && !state.writeFailed && state.hasReader && 0 < count &&
        count ≤ state.unsent.length && state.inPipe.length + count ≤ capacities.input)
      { state with
        unsent := state.unsent.drop count
        inPipe := state.inPipe ++ state.unsent.take count }
  | .sendFails =>
    next (state.stage = .writing && !state.writeFailed && !state.hasReader &&
        !state.unsent.isEmpty)
      { state with writeFailed := true }
  | .sendBreaks =>
    next (state.stage = .writing && !state.writeFailed && !state.unsent.isEmpty)
      { state with writeFailed := true }
  | .closeInput =>
    next (state.stage = .writing && (state.writeFailed || state.unsent.isEmpty))
      { state with inputOpen := false, stage := .joining .output }
  | .join .output =>
    next (state.stage = .joining .output && state.output.drain ≠ .reading)
      { state with stage := .joining .errors }
  | .join .errors =>
    next (state.stage = .joining .errors && state.errors.drain ≠ .reading)
      { state with stage := if state.watchdog = .absent then .locking else .cancelling }
  | .cancel =>
    next (state.stage = .cancelling) { state with cancelled := true, stage := .awaitingWatchdog }
  | .joinWatchdog =>
    next (state.stage = .awaitingWatchdog && state.watchdog.isDone) { state with stage := .locking }
  | .lock =>
    next (state.stage = .locking && !state.watchdog.holdsLock) { state with stage := .waiting }
  | .reap =>
    match state.checker.ending with
    | some ending =>
      next (state.stage = .waiting) { state with stage := .returned (state.outcome ending) }
    | none => none
  | .drain outlet count =>
    let flow := state.outflow outlet
    next (flow.drain = .reading && 0 < count && count ≤ flow.inPipe.length)
      (state.withOutflow outlet { flow with
        inPipe := flow.inPipe.drop count
        gathered := flow.gathered ++ flow.inPipe.take count })
  | .drainEnds outlet =>
    let flow := state.outflow outlet
    next (flow.drain = .reading && flow.inPipe.isEmpty && !state.hasWriter outlet)
      (state.withOutflow outlet { flow with drain := .ended })
  | .drainFails outlet =>
    let flow := state.outflow outlet
    next (flow.drain = .reading) (state.withOutflow outlet { flow with drain := .failed })
  | .expire => next (state.watchdog = .armed) { state with watchdog := .expired }
  | .heed =>
    next (state.watchdog = .armed && state.cancelled) { state with watchdog := .dismissed false }
  | .takeLock =>
    next (state.watchdog = .expired && !state.stage.holdsLock) { state with watchdog := .holding }
  | .poll =>
    next (state.watchdog = .holding)
      { state with watchdog := if state.checker.isAlive then .striking else .dismissed false }
  | .kill =>
    next (state.watchdog = .striking)
      { state with
        watchdog := .dismissed true
        checker := if state.checker.isAlive then state.checker.finish (.killed 9)
          else state.checker }
  | .killFails => next (state.watchdog = .striking) { state with watchdog := .thwarted }
  | .reads actor count =>
    state.byProcess actor fun process =>
      next (process.ends.input && 0 < count && count ≤ state.inPipe.length)
        { state with
          inPipe := state.inPipe.drop count
          consumed := state.consumed ++ state.inPipe.take count }
  | .seesEnd actor =>
    state.byProcess actor fun process =>
      next (process.ends.input && state.inPipe.isEmpty && !state.inputOpen)
        (state.withProcess actor { process with sawEnd := true })
  | .writes actor outlet bytes =>
    state.byProcess actor fun process =>
      let flow := state.outflow outlet
      next (process.ends.outlet outlet && flow.drain = .reading && !bytes.isEmpty &&
          flow.inPipe.length + bytes.length ≤ capacities.outlet outlet)
        (state.withOutflow outlet { flow with
          written := flow.written ++ bytes
          inPipe := flow.inPipe ++ bytes })
  | .closes actor stream =>
    state.byProcess actor fun process =>
      some (state.withProcess actor { process with ends := process.ends.close stream })
  | .forks actor ends =>
    state.byProcess actor fun process =>
      some { state with
        descendants := state.descendants ++ [{ ends := process.ends.inter ends }] }
  | .ends actor ending =>
    state.byProcess actor fun process =>
      some (state.withProcess actor (process.finish ending))

/-- The states that some steps lead to from a state. -/
inductive Steps (capacities : Capacities) (start : RunState) : RunState → Prop where
  | refl : Steps capacities start start
  | step {state following : RunState} (event : RunEvent) :
      Steps capacities start state → state.apply capacities event = some following →
      Steps capacities start following

/-- The states of a run with a document, with or without a deadline. -/
def Reachable (capacities : Capacities) (document : List UInt8) (hasDeadline : Bool)
    (state : RunState) : Prop :=
  Steps capacities (initial document hasDeadline) state

end RunState

end FlowCheck
