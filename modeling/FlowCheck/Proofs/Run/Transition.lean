import FlowCheck.Run.Step

/-! # Steps of a run as a relation

What each event needs and what it changes, as one rule for each way in which it can go. A step of
the run is possible exactly by these rules, so a fact about all steps is a fact about each rule.
Besides, each change of a state is described by what it leaves alone.
-/

namespace FlowCheck

/-- A process that is not alive has come to an end. -/
theorem ProcessState.isAlive_eq_false_iff {process : ProcessState} :
    process.isAlive = false ↔ ∃ ending, process.ending = some ending := by
  rw [isAlive, Option.isNone_eq_false_iff, Option.isSome_iff_exists]

namespace RunState

variable {capacities : Capacities} {state following : RunState}

/-! ## Changes of a state -/

section Changes

variable (state : RunState) (outlet : Outlet) (outflow : Outflow) (actor : Actor)
  (process : ProcessState)

@[simp] theorem withOutflow_stage : (state.withOutflow outlet outflow).stage = state.stage := by
  cases outlet <;> rfl

@[simp] theorem withOutflow_watchdog :
    (state.withOutflow outlet outflow).watchdog = state.watchdog := by
  cases outlet <;> rfl

@[simp] theorem withOutflow_cancelled :
    (state.withOutflow outlet outflow).cancelled = state.cancelled := by
  cases outlet <;> rfl

@[simp] theorem withOutflow_inputOpen :
    (state.withOutflow outlet outflow).inputOpen = state.inputOpen := by
  cases outlet <;> rfl

@[simp] theorem withOutflow_inPipe : (state.withOutflow outlet outflow).inPipe = state.inPipe := by
  cases outlet <;> rfl

@[simp] theorem withOutflow_unsent : (state.withOutflow outlet outflow).unsent = state.unsent := by
  cases outlet <;> rfl

@[simp] theorem withOutflow_consumed :
    (state.withOutflow outlet outflow).consumed = state.consumed := by
  cases outlet <;> rfl

@[simp] theorem withOutflow_writeFailed :
    (state.withOutflow outlet outflow).writeFailed = state.writeFailed := by
  cases outlet <;> rfl

@[simp] theorem withOutflow_checker :
    (state.withOutflow outlet outflow).checker = state.checker := by
  cases outlet <;> rfl

@[simp] theorem withOutflow_process? :
    (state.withOutflow outlet outflow).process? = state.process? := by
  cases outlet <;> rfl

/-- Changing what flows out of one outlet leaves the other as it is. -/
theorem outflow_withOutflow (other : Outlet) :
    (state.withOutflow outlet outflow).outflow other =
      if other = outlet then outflow else state.outflow other := by
  cases outlet <;> cases other <;> rfl

@[simp] theorem withProcess_stage : (state.withProcess actor process).stage = state.stage := by
  cases actor <;> rfl

@[simp] theorem withProcess_watchdog :
    (state.withProcess actor process).watchdog = state.watchdog := by
  cases actor <;> rfl

@[simp] theorem withProcess_cancelled :
    (state.withProcess actor process).cancelled = state.cancelled := by
  cases actor <;> rfl

@[simp] theorem withProcess_inputOpen :
    (state.withProcess actor process).inputOpen = state.inputOpen := by
  cases actor <;> rfl

@[simp] theorem withProcess_inPipe : (state.withProcess actor process).inPipe = state.inPipe := by
  cases actor <;> rfl

@[simp] theorem withProcess_unsent : (state.withProcess actor process).unsent = state.unsent := by
  cases actor <;> rfl

@[simp] theorem withProcess_consumed :
    (state.withProcess actor process).consumed = state.consumed := by
  cases actor <;> rfl

@[simp] theorem withProcess_writeFailed :
    (state.withProcess actor process).writeFailed = state.writeFailed := by
  cases actor <;> rfl

@[simp] theorem withProcess_outflow (outlet : Outlet) :
    (state.withProcess actor process).outflow outlet = state.outflow outlet := by
  cases actor <;> cases outlet <;> rfl

/-- Only the process itself is changed, if there is one. -/
theorem process?_withProcess (other : Actor) :
    (state.withProcess actor process).process? other =
      if other = actor then (state.process? actor).map fun _ => process
      else state.process? other := by
  cases actor with
  | checker => cases other <;> simp [withProcess, process?]
  | descendant number =>
      cases other with
      | checker => simp [withProcess, process?]
      | descendant other =>
          simp only [withProcess, process?, Actor.descendant.injEq]
          by_cases same : other = number
          · subst same
            rw [if_pos rfl, List.getElem?_set_self']
            rfl
          · rw [if_neg same, List.getElem?_set_ne (Ne.symm same)]

end Changes

/-- Starting a process adds it to those that there are. -/
theorem process?_of_started {actor : Actor} {process started : ProcessState}
    (found : { state with descendants := state.descendants ++ [started] }.process? actor =
      some process) : state.process? actor = some process ∨ process = started := by
  cases actor with
  | checker => exact .inl found
  | descendant number =>
      simp only [process?, List.getElem?_append, List.getElem?_singleton] at found
      split at found
      · exact .inl found
      · split at found
        · exact .inr (Option.some.inj found).symm
        · cases found

/-! ## The rules -/

/-- What a step needs and what it leads to. -/
inductive Step (capacities : Capacities) (state : RunState) : RunEvent → RunState → Prop where
  | send {count : Nat} (writing : state.stage = .writing) (unfailed : state.writeFailed = false)
      (reader : state.hasReader = true) (positive : 0 < count)
      (pending : count ≤ state.unsent.length)
      (room : state.inPipe.length + count ≤ capacities.input) :
      Step capacities state (.send count)
        { state with
          unsent := state.unsent.drop count
          inPipe := state.inPipe ++ state.unsent.take count }
  | sendFails (writing : state.stage = .writing) (unfailed : state.writeFailed = false)
      (unread : state.hasReader = false) (pending : state.unsent ≠ []) :
      Step capacities state .sendFails { state with writeFailed := true }
  | sendBreaks (writing : state.stage = .writing) (unfailed : state.writeFailed = false)
      (pending : state.unsent ≠ []) :
      Step capacities state .sendBreaks { state with writeFailed := true }
  | closeInput (writing : state.stage = .writing)
      (finished : state.writeFailed = true ∨ state.unsent = []) :
      Step capacities state .closeInput
        { state with inputOpen := false, stage := .joining .output }
  | joinOutput (joining : state.stage = .joining .output)
      (done : state.output.drain ≠ .reading) :
      Step capacities state (.join .output) { state with stage := .joining .errors }
  | joinErrors (joining : state.stage = .joining .errors) (done : state.errors.drain ≠ .reading)
      (unwatched : state.watchdog = .absent) :
      Step capacities state (.join .errors) { state with stage := .locking }
  | joinErrorsWatched (joining : state.stage = .joining .errors)
      (done : state.errors.drain ≠ .reading) (watched : state.watchdog ≠ .absent) :
      Step capacities state (.join .errors) { state with stage := .cancelling }
  | cancel (cancelling : state.stage = .cancelling) :
      Step capacities state .cancel { state with cancelled := true, stage := .awaitingWatchdog }
  | joinWatchdog (awaiting : state.stage = .awaitingWatchdog)
      (done : state.watchdog.isDone = true) :
      Step capacities state .joinWatchdog { state with stage := .locking }
  | lock (locking : state.stage = .locking) (free : state.watchdog.holdsLock = false) :
      Step capacities state .lock { state with stage := .waiting }
  | reap {ending : Ending} (waiting : state.stage = .waiting)
      (ended : state.checker.ending = some ending) :
      Step capacities state .reap { state with stage := .returned (state.outcome ending) }
  | drain {outlet : Outlet} {count : Nat} (reading : (state.outflow outlet).drain = .reading)
      (positive : 0 < count) (available : count ≤ (state.outflow outlet).inPipe.length) :
      Step capacities state (.drain outlet count)
        (state.withOutflow outlet { state.outflow outlet with
          inPipe := (state.outflow outlet).inPipe.drop count
          gathered := (state.outflow outlet).gathered ++ (state.outflow outlet).inPipe.take count })
  | drainEnds {outlet : Outlet} (reading : (state.outflow outlet).drain = .reading)
      (empty : (state.outflow outlet).inPipe = []) (unwritten : state.hasWriter outlet = false) :
      Step capacities state (.drainEnds outlet)
        (state.withOutflow outlet { state.outflow outlet with drain := .ended })
  | drainFails {outlet : Outlet} (reading : (state.outflow outlet).drain = .reading) :
      Step capacities state (.drainFails outlet)
        (state.withOutflow outlet { state.outflow outlet with drain := .failed })
  | expire (armed : state.watchdog = .armed) :
      Step capacities state .expire { state with watchdog := .expired }
  | heed (armed : state.watchdog = .armed) (cancelled : state.cancelled = true) :
      Step capacities state .heed { state with watchdog := .dismissed false }
  | takeLock (expired : state.watchdog = .expired) (free : state.stage.holdsLock = false) :
      Step capacities state .takeLock { state with watchdog := .holding }
  | pollAlive (holding : state.watchdog = .holding) (alive : state.checker.isAlive = true) :
      Step capacities state .poll { state with watchdog := .striking }
  | pollEnded (holding : state.watchdog = .holding) (ended : state.checker.isAlive = false) :
      Step capacities state .poll { state with watchdog := .dismissed false }
  | killAlive (striking : state.watchdog = .striking) (alive : state.checker.isAlive = true) :
      Step capacities state .kill
        { state with watchdog := .dismissed true, checker := state.checker.finish (.killed 9) }
  | killEnded (striking : state.watchdog = .striking) (ended : state.checker.isAlive = false) :
      Step capacities state .kill { state with watchdog := .dismissed true }
  | killFails (striking : state.watchdog = .striking) :
      Step capacities state .killFails { state with watchdog := .thwarted }
  | reads {actor : Actor} {process : ProcessState} {count : Nat}
      (found : state.process? actor = some process) (alive : process.isAlive = true)
      (reader : process.ends.input = true) (positive : 0 < count)
      (available : count ≤ state.inPipe.length) :
      Step capacities state (.reads actor count)
        { state with
          inPipe := state.inPipe.drop count
          consumed := state.consumed ++ state.inPipe.take count }
  | seesEnd {actor : Actor} {process : ProcessState}
      (found : state.process? actor = some process) (alive : process.isAlive = true)
      (reader : process.ends.input = true) (empty : state.inPipe = [])
      (closed : state.inputOpen = false) :
      Step capacities state (.seesEnd actor)
        (state.withProcess actor { process with sawEnd := true })
  | writes {actor : Actor} {process : ProcessState} {outlet : Outlet} {bytes : List UInt8}
      (found : state.process? actor = some process) (alive : process.isAlive = true)
      (writer : process.ends.outlet outlet = true)
      (reading : (state.outflow outlet).drain = .reading) (nonempty : bytes ≠ [])
      (room : (state.outflow outlet).inPipe.length + bytes.length ≤ capacities.outlet outlet) :
      Step capacities state (.writes actor outlet bytes)
        (state.withOutflow outlet { state.outflow outlet with
          written := (state.outflow outlet).written ++ bytes
          inPipe := (state.outflow outlet).inPipe ++ bytes })
  | closes {actor : Actor} {process : ProcessState} {stream : StreamName}
      (found : state.process? actor = some process) (alive : process.isAlive = true) :
      Step capacities state (.closes actor stream)
        (state.withProcess actor { process with ends := process.ends.close stream })
  | forks {actor : Actor} {process : ProcessState} {ends : Ends}
      (found : state.process? actor = some process) (alive : process.isAlive = true) :
      Step capacities state (.forks actor ends)
        { state with
          descendants := state.descendants ++ [{ ends := process.ends.inter ends }] }
  | ends {actor : Actor} {process : ProcessState} {ending : Ending}
      (found : state.process? actor = some process) (alive : process.isAlive = true) :
      Step capacities state (.ends actor ending)
        (state.withProcess actor (process.finish ending))

/-- A step under a condition needs the condition. -/
theorem next_eq_some_iff {condition : Bool} :
    next condition state = some following ↔ condition = true ∧ state = following := by
  cases condition <;> simp [next]

/-- A step of a process needs the process to be alive. -/
theorem byProcess_eq_some_iff {actor : Actor} {step : ProcessState → Option RunState} :
    state.byProcess actor step = some following ↔
      ∃ process, state.process? actor = some process ∧ process.isAlive = true ∧
        step process = some following := by
  unfold byProcess
  cases state.process? actor with
  | none => simp
  | some process => cases alive : process.isAlive <;> simp [alive]

/-- A step that a rule describes is possible. -/
theorem Step.apply {event : RunEvent} (step : Step capacities state event following) :
    state.apply capacities event = some following := by
  cases step <;>
    simp_all [RunState.apply, next_eq_some_iff, byProcess_eq_some_iff, List.isEmpty_iff]

/-- A step that is possible is described by a rule. -/
theorem Step.of_apply {event : RunEvent}
    (applied : state.apply capacities event = some following) :
    Step capacities state event following := by
  cases event with
  | send count =>
      simp only [RunState.apply, next_eq_some_iff, Bool.and_eq_true, decide_eq_true_iff,
        Bool.not_eq_true'] at applied
      obtain ⟨⟨⟨⟨⟨⟨writing, unfailed⟩, reader⟩, positive⟩, pending⟩, room⟩, rfl⟩ := applied
      exact .send writing unfailed reader positive pending room
  | sendFails =>
      simp only [RunState.apply, next_eq_some_iff, Bool.and_eq_true, decide_eq_true_iff,
        Bool.not_eq_true', List.isEmpty_eq_false_iff] at applied
      obtain ⟨⟨⟨⟨writing, unfailed⟩, unread⟩, pending⟩, rfl⟩ := applied
      exact .sendFails writing unfailed unread pending
  | sendBreaks =>
      simp only [RunState.apply, next_eq_some_iff, Bool.and_eq_true, decide_eq_true_iff,
        Bool.not_eq_true', List.isEmpty_eq_false_iff] at applied
      obtain ⟨⟨⟨writing, unfailed⟩, pending⟩, rfl⟩ := applied
      exact .sendBreaks writing unfailed pending
  | closeInput =>
      simp only [RunState.apply, next_eq_some_iff, Bool.and_eq_true, Bool.or_eq_true,
        decide_eq_true_iff, List.isEmpty_iff] at applied
      obtain ⟨⟨writing, finished⟩, rfl⟩ := applied
      exact .closeInput writing finished
  | join outlet =>
      cases outlet with
      | output =>
          simp only [RunState.apply, next_eq_some_iff, Bool.and_eq_true, decide_eq_true_iff]
            at applied
          obtain ⟨⟨joining, done⟩, rfl⟩ := applied
          exact .joinOutput joining done
      | errors =>
          simp only [RunState.apply, next_eq_some_iff, Bool.and_eq_true, decide_eq_true_iff]
            at applied
          obtain ⟨⟨joining, done⟩, rfl⟩ := applied
          by_cases unwatched : state.watchdog = .absent
          · rw [if_pos unwatched]
            exact .joinErrors joining done unwatched
          · rw [if_neg unwatched]
            exact .joinErrorsWatched joining done unwatched
  | cancel =>
      simp only [RunState.apply, next_eq_some_iff, decide_eq_true_iff] at applied
      obtain ⟨cancelling, rfl⟩ := applied
      exact .cancel cancelling
  | joinWatchdog =>
      simp only [RunState.apply, next_eq_some_iff, Bool.and_eq_true, decide_eq_true_iff]
        at applied
      obtain ⟨⟨awaiting, done⟩, rfl⟩ := applied
      exact .joinWatchdog awaiting done
  | lock =>
      simp only [RunState.apply, next_eq_some_iff, Bool.and_eq_true, decide_eq_true_iff,
        Bool.not_eq_true'] at applied
      obtain ⟨⟨locking, free⟩, rfl⟩ := applied
      exact .lock locking free
  | reap =>
      simp only [RunState.apply] at applied
      split at applied
      · next ending ended =>
          simp only [next_eq_some_iff, decide_eq_true_iff] at applied
          obtain ⟨waiting, rfl⟩ := applied
          exact .reap waiting ended
      · cases applied
  | drain outlet count =>
      simp only [RunState.apply, next_eq_some_iff, Bool.and_eq_true, decide_eq_true_iff]
        at applied
      obtain ⟨⟨⟨reading, positive⟩, available⟩, rfl⟩ := applied
      exact .drain reading positive available
  | drainEnds outlet =>
      simp only [RunState.apply, next_eq_some_iff, Bool.and_eq_true, decide_eq_true_iff,
        Bool.not_eq_true', List.isEmpty_iff] at applied
      obtain ⟨⟨⟨reading, empty⟩, unwritten⟩, rfl⟩ := applied
      exact .drainEnds reading empty unwritten
  | drainFails outlet =>
      simp only [RunState.apply, next_eq_some_iff, decide_eq_true_iff] at applied
      obtain ⟨reading, rfl⟩ := applied
      exact .drainFails reading
  | expire =>
      simp only [RunState.apply, next_eq_some_iff, decide_eq_true_iff] at applied
      obtain ⟨armed, rfl⟩ := applied
      exact .expire armed
  | heed =>
      simp only [RunState.apply, next_eq_some_iff, Bool.and_eq_true, decide_eq_true_iff]
        at applied
      obtain ⟨⟨armed, cancelled⟩, rfl⟩ := applied
      exact .heed armed cancelled
  | takeLock =>
      simp only [RunState.apply, next_eq_some_iff, Bool.and_eq_true, decide_eq_true_iff,
        Bool.not_eq_true'] at applied
      obtain ⟨⟨expired, free⟩, rfl⟩ := applied
      exact .takeLock expired free
  | poll =>
      simp only [RunState.apply, next_eq_some_iff, decide_eq_true_iff] at applied
      obtain ⟨holding, rfl⟩ := applied
      cases alive : state.checker.isAlive with
      | true => exact .pollAlive holding alive
      | false => exact .pollEnded holding alive
  | kill =>
      simp only [RunState.apply, next_eq_some_iff, decide_eq_true_iff] at applied
      obtain ⟨striking, rfl⟩ := applied
      cases alive : state.checker.isAlive with
      | true => exact .killAlive striking alive
      | false => exact .killEnded striking alive
  | killFails =>
      simp only [RunState.apply, next_eq_some_iff, decide_eq_true_iff] at applied
      obtain ⟨striking, rfl⟩ := applied
      exact .killFails striking
  | reads actor count =>
      simp only [RunState.apply, byProcess_eq_some_iff, next_eq_some_iff, Bool.and_eq_true,
        decide_eq_true_iff] at applied
      obtain ⟨process, found, alive, ⟨⟨reader, positive⟩, available⟩, rfl⟩ := applied
      exact .reads found alive reader positive available
  | seesEnd actor =>
      simp only [RunState.apply, byProcess_eq_some_iff, next_eq_some_iff, Bool.and_eq_true,
        Bool.not_eq_true', List.isEmpty_iff] at applied
      obtain ⟨process, found, alive, ⟨⟨reader, empty⟩, closed⟩, rfl⟩ := applied
      exact .seesEnd found alive reader empty closed
  | writes actor outlet bytes =>
      simp only [RunState.apply, byProcess_eq_some_iff, next_eq_some_iff, Bool.and_eq_true,
        decide_eq_true_iff, Bool.not_eq_true', List.isEmpty_eq_false_iff] at applied
      obtain ⟨process, found, alive, ⟨⟨⟨writer, reading⟩, nonempty⟩, room⟩, rfl⟩ := applied
      exact .writes found alive writer reading nonempty room
  | closes actor stream =>
      simp only [RunState.apply, byProcess_eq_some_iff, Option.some.injEq] at applied
      obtain ⟨process, found, alive, rfl⟩ := applied
      exact .closes found alive
  | forks actor ends =>
      simp only [RunState.apply, byProcess_eq_some_iff, Option.some.injEq] at applied
      obtain ⟨process, found, alive, rfl⟩ := applied
      exact .forks found alive
  | ends actor ending =>
      simp only [RunState.apply, byProcess_eq_some_iff, Option.some.injEq] at applied
      obtain ⟨process, found, alive, rfl⟩ := applied
      exact .ends found alive

/-- A step is possible exactly by the rules. -/
theorem apply_eq_some_iff {event : RunEvent} :
    state.apply capacities event = some following ↔ Step capacities state event following :=
  ⟨Step.of_apply, Step.apply⟩

/-- Events that are possible one after the other make a run longer. -/
theorem Steps.append {start : RunState} (steps : Steps capacities start state)
    {events : List RunEvent}
    (applied : events.foldlM (fun state event => state.apply capacities event) state =
      some following) : Steps capacities start following := by
  induction events generalizing state with
  | nil =>
      obtain rfl := Option.some.inj applied
      exact steps
  | cons event rest ih =>
      rw [List.foldlM_cons] at applied
      obtain ⟨next, first, later⟩ := Option.bind_eq_some_iff.mp applied
      exact ih (steps.step event first) later

end RunState

end FlowCheck
