import FlowCheck.Run.Step

/-!
# Carrying out a run

A run is carried out step by step when it is known what each process is going to do. The runner and
its helpers go first; a process goes on as far as the pipes let it; and time passes only when
nothing else can happen.
-/

namespace FlowCheck

/-- How many bytes a pipe holds. -/
def pipeCapacity : Nat := 65536

/-- All three pipes hold as much. -/
def pipeCapacities : Capacities :=
  ⟨pipeCapacity, pipeCapacity, pipeCapacity⟩

/-- What a process is still going to do, and not before when. -/
structure Plan where
  deeds : List Deed
  wakes : Nat := 0

/-- A run that is being carried out. -/
structure Schedule where
  state : RunState
  time : Nat := 0
  /-- When the deadline passes. -/
  deadline : Option Nat
  /-- The plan of the checker and those of the processes that it started. -/
  checker : Plan
  descendants : List Plan := []

namespace Schedule

/-- The plan of a process. -/
def plan? (schedule : Schedule) : Actor → Option Plan
  | .checker => some schedule.checker
  | .descendant number => schedule.descendants[number]?

/-- A schedule with another plan of a process. -/
def withPlan (schedule : Schedule) (actor : Actor) (plan : Plan) : Schedule :=
  match actor with
  | .checker => { schedule with checker := plan }
  | .descendant number => { schedule with descendants := schedule.descendants.set number plan }

/-- The steps that the runner and its helpers try, in this order. -/
def runnerEvents (schedule : Schedule) : List RunEvent :=
  let state := schedule.state
  [.send (state.unsent.take (pipeCapacity - state.inPipe.length)).length, .sendFails, .closeInput,
    .drain .output state.output.inPipe.length, .drainEnds .output,
    .drain .errors state.errors.inPipe.length, .drainEnds .errors,
    .join .output, .join .errors, .cancel, .heed, .takeLock, .poll, .kill, .joinWatchdog, .lock,
    .reap] ++
  match schedule.deadline with
  | some deadline => if deadline ≤ schedule.time then [.expire] else []
  | none => []

/-- The schedule after a step of the runner or its helpers. -/
def runnerStep? (schedule : Schedule) : Option Schedule :=
  schedule.runnerEvents.findSome? fun event =>
    (schedule.state.apply pipeCapacities event).map fun state => { schedule with state := state }

/-- The schedule after an event, with another plan of a process. -/
def perform? (schedule : Schedule) (event : RunEvent) (actor : Actor) (plan : Plan) :
    Option Schedule :=
  (schedule.state.apply pipeCapacities event).map fun state =>
    { schedule.withPlan actor plan with state := state }

/-- The ends of some streams. -/
def endsOf (streams : List StreamName) : Ends :=
  ⟨streams.contains .stdin, streams.contains .stdout, streams.contains .stderr⟩

/-- The outlet that a stream is. -/
def outletOf : StreamName → Outlet
  | .stderr => .errors
  | _ => .output

/-- The schedule after the next step of a process, if the process can make one. What needs a stream
that is closed is passed over. -/
def deedStep? (schedule : Schedule) (actor : Actor) (process : ProcessState) (plan : Plan) :
    Option Schedule :=
  let state := schedule.state
  match plan.deeds with
  | [] => schedule.perform? (.ends actor (.exited 0)) actor plan
  | deed :: rest =>
    let after : Plan := { plan with deeds := rest }
    match deed with
    | .read count =>
      let size := min (count.getD state.inPipe.length) state.inPipe.length
      if !process.ends.input || count = some 0 then some (schedule.withPlan actor after)
      else if 0 < size then
        schedule.perform? (.reads actor size) actor
          { plan with deeds := .read (count.map fun count => count - size) :: rest }
      else schedule.perform? (.seesEnd actor) actor after
    | .write stream bytes =>
      let outlet := outletOf stream
      let size := (bytes.take (pipeCapacity - (state.outflow outlet).inPipe.length)).length
      if !process.ends.outlet outlet || bytes.isEmpty then some (schedule.withPlan actor after)
      else
        schedule.perform? (.writes actor outlet (bytes.take size)) actor
          { plan with deeds := .write stream (bytes.drop size) :: rest }
    | .close stream => schedule.perform? (.closes actor stream) actor after
    | .pause time =>
      some (schedule.withPlan actor { deeds := rest, wakes := schedule.time + time })
    | .fork streams deeds =>
      (schedule.perform? (.forks actor (endsOf streams)) actor after).map fun schedule =>
        { schedule with
          descendants := schedule.descendants ++ [{ deeds := deeds, wakes := schedule.time }] }
    | .join =>
      if state.descendants.any ProcessState.isAlive then none
      else some (schedule.withPlan actor after)
    | .hang => none
    | .leave ending => schedule.perform? (.ends actor ending) actor after

/-- The processes that there are. -/
def actors (schedule : Schedule) : List Actor :=
  .checker :: (List.range schedule.descendants.length).map .descendant

/-- The schedule after a step of some process. -/
def processStep? (schedule : Schedule) : Option Schedule :=
  schedule.actors.findSome? fun actor => do
    let process ← schedule.state.process? actor
    let plan ← schedule.plan? actor
    if process.isAlive && plan.wakes ≤ schedule.time then
      schedule.deedStep? actor process plan
    else none

/-- The schedule at the next time at which something can happen. -/
def wait? (schedule : Schedule) : Option Schedule :=
  let wakes := schedule.actors.filterMap fun actor => do
    let process ← schedule.state.process? actor
    let plan ← schedule.plan? actor
    if process.isAlive then some plan.wakes else none
  let deadline := if schedule.state.watchdog = .armed then schedule.deadline.toList else []
  let later := (wakes ++ deadline).filter fun time => decide (schedule.time < time)
  later.min?.map fun time => { schedule with time := time }

/-- The next schedule, unless nothing will ever happen again. -/
def step? (schedule : Schedule) : Option Schedule :=
  schedule.runnerStep?.or (schedule.processStep?.or schedule.wait?)

/-- What the run comes to and when, if it comes to an end within a number of steps. -/
def finish? : Nat → Schedule → Option (RunOutcome × Nat)
  | 0, _ => none
  | fuel + 1, schedule =>
    match schedule.state.stage with
    | .returned outcome => some (outcome, schedule.time)
    | _ =>
      match schedule.step? with
      | some next => finish? fuel next
      | none => none

end Schedule

mutual

/-- A bound on the steps that a deed takes. -/
def Deed.cost : Deed → Nat
  | .write _ bytes => bytes.length + 2
  | .fork _ deeds => costOfDeeds deeds + 2
  | _ => 2

/-- A bound on the steps that deeds take. -/
def costOfDeeds : List Deed → Nat
  | [] => 2
  | deed :: rest => deed.cost + costOfDeeds rest

end

/-- What the run of a checker comes to and how long it takes, if it comes to an end. -/
def runDeeds (document : List UInt8) (deadline : Option Nat) (deeds : List Deed) :
    Option (RunOutcome × Nat) :=
  let schedule : Schedule :=
    { state := .initial document deadline.isSome, deadline, checker := { deeds } }
  schedule.finish? (64 + 8 * (document.length + costOfDeeds deeds))

end FlowCheck
