import FlowCheck.Proofs.Run.Progress

/-! # When the runner comes to an end

Once nobody writes a stream that is still read, and nothing holds up the rest of the document, the
streams are over, and they stay over whatever happens. From then on the runner and its helpers
always have a step to make until the runner has returned or waits for a checker that is still alive;
and there are only so many steps that they can make, however the processes go on meanwhile.
-/

namespace FlowCheck

namespace RunState

variable {capacities : Capacities} {state following : RunState} {event : RunEvent}

/-- A step that the runner or one of its helpers takes by itself. -/
def OwnStep (capacities : Capacities) (state following : RunState) : Prop :=
  ∃ event, event.isRunner = true ∧ state.apply capacities event = some following

/-- Nobody writes a stream that is still read, and nothing holds up the rest of the document. -/
structure StreamsOver (capacities : Capacities) (state : RunState) : Prop where
  unwritten : ∀ outlet, (state.outflow outlet).drain = .reading → state.hasWriter outlet = false
  disposed : state.stage = .writing → state.writeFailed = true ∨ state.hasReader = false ∨
    state.unsent = [] ∨ state.inPipe.length + state.unsent.length ≤ capacities.input

/-! ## Streams stay over -/

private theorem Step.reading (step : Step capacities state event following) {outlet : Outlet}
    (reading : (following.outflow outlet).drain = .reading) :
    (state.outflow outlet).drain = .reading :=
  Decidable.byContradiction fun done => step.drain_ne_reading done reading

/-- What the runner still has to write finds room after a step if it did before. -/
theorem Step.disposed (step : Step capacities state event following)
    (quiet : state.StreamsOver capacities) (writing : following.stage = .writing) :
    following.writeFailed = true ∨ following.hasReader = false ∨ following.unsent = [] ∨
      following.inPipe.length + following.unsent.length ≤ capacities.input := by
  have unread := step.hasReader_eq_false
  cases step with
  | send there _ _ _ pending room =>
      refine (quiet.disposed there).imp id (.imp unread (.imp (fun sent => ?_) fun fits => ?_))
      · rw [sent, List.drop_nil]
      · simp only [List.length_append, List.length_take, List.length_drop]
        omega
  | sendFails | sendBreaks => exact .inl rfl
  | closeInput | joinOutput | joinErrors | joinErrorsWatched | cancel | joinWatchdog | lock
  | reap => cases writing
  | reads =>
      refine (quiet.disposed writing).imp id (.imp unread (.imp id fun fits => ?_))
      change (state.inPipe.drop _).length + state.unsent.length ≤ capacities.input
      rw [List.length_drop]
      omega
  | drain | drainEnds | drainFails | writes =>
      rw [withOutflow_stage] at writing
      rw [withOutflow_writeFailed, withOutflow_unsent, withOutflow_inPipe]
      exact (quiet.disposed writing).imp id (.imp_left unread)
  | seesEnd | closes | ends =>
      rw [withProcess_stage] at writing
      rw [withProcess_writeFailed, withProcess_unsent, withProcess_inPipe]
      exact (quiet.disposed writing).imp id (.imp_left unread)
  | _ => exact (quiet.disposed writing).imp id (.imp_left unread)

/-- Streams that are over stay so. -/
theorem StreamsOver.step (quiet : state.StreamsOver capacities)
    (step : Step capacities state event following) : following.StreamsOver capacities where
  unwritten := fun outlet reading =>
    step.hasWriter_eq_false (quiet.unwritten outlet (step.reading reading))
  disposed := step.disposed quiet

/-! ## There is a next step -/

private theorem StreamsOver.drain_step (quiet : state.StreamsOver capacities) (outlet : Outlet) :
    (state.outflow outlet).drain ≠ .reading ∨ ∃ following, OwnStep capacities state following := by
  by_cases reading : (state.outflow outlet).drain = .reading
  · right
    by_cases empty : (state.outflow outlet).inPipe = []
    · exact ⟨_, .drainEnds outlet, rfl,
        (Step.drainEnds reading empty (quiet.unwritten outlet reading)).apply⟩
    · exact ⟨_, .drain outlet (state.outflow outlet).inPipe.length, rfl,
        (Step.drain reading (List.length_pos_iff.mpr empty) (Nat.le_refl _)).apply⟩
  · exact .inl reading

private theorem StreamsOver.writing_step (quiet : state.StreamsOver capacities)
    (there : state.stage = .writing) : ∃ following, OwnStep capacities state following := by
  by_cases finished : state.writeFailed = true ∨ state.unsent = []
  · exact ⟨_, .closeInput, rfl, (Step.closeInput there finished).apply⟩
  · obtain ⟨unfailed, pending⟩ := not_or.mp finished
    rw [Bool.not_eq_true] at unfailed
    cases reader : state.hasReader with
    | false => exact ⟨_, .sendFails, rfl, (Step.sendFails there unfailed reader pending).apply⟩
    | true =>
        have fits : state.inPipe.length + state.unsent.length ≤ capacities.input := by
          rcases quiet.disposed there with failed | unread | sent | fits
          · cases failed.symm.trans unfailed
          · cases unread.symm.trans reader
          · exact (pending sent).elim
          · exact fits
        exact ⟨_, .send state.unsent.length, rfl, (Step.send there unfailed reader
          (List.length_pos_iff.mpr pending) (Nat.le_refl _) fits).apply⟩

/-- Where the streams are over, the runner or a helper has a step to make, unless the runner has
returned or waits for a checker that is alive. -/
theorem StreamsOver.exists_step (quiet : state.StreamsOver capacities) (guarded : state.IsGuarded) :
    (∃ outcome, state.stage = .returned outcome) ∨
      (state.stage = .waiting ∧ state.checker.isAlive = true) ∨
        ∃ following, OwnStep capacities state following := by
  cases stage : state.stage with
  | writing => exact .inr (.inr (quiet.writing_step stage))
  | joining outlet =>
      refine .inr (.inr ((quiet.drain_step outlet).elim (fun done => ?_) id))
      cases outlet with
      | output => exact ⟨_, .join .output, rfl, (Step.joinOutput stage done).apply⟩
      | errors =>
          by_cases watched : state.watchdog = .absent
          · exact ⟨_, .join .errors, rfl, (Step.joinErrors stage done watched).apply⟩
          · exact ⟨_, .join .errors, rfl, (Step.joinErrorsWatched stage done watched).apply⟩
  | cancelling => exact .inr (.inr ⟨_, .cancel, rfl, (Step.cancel stage).apply⟩)
  | awaitingWatchdog =>
      have relieved : ∃ event following, event.isRunner = true ∧
          state.apply capacities event = some following := guarded.relieve_runner stage
      obtain ⟨event, following, own, applied⟩ := relieved
      exact .inr (.inr ⟨following, event, own, applied⟩)
  | locking =>
      have free : state.watchdog.holdsLock = false :=
        Bool.eq_false_iff.mpr fun holds => guarded.lock_free.1 ⟨stage, holds⟩
      exact .inr (.inr ⟨_, .lock, rfl, (Step.lock stage free).apply⟩)
  | waiting =>
      cases ended : state.checker.ending with
      | none => exact .inr (.inl ⟨rfl, by rw [ProcessState.isAlive, ended]; rfl⟩)
      | some ending => exact .inr (.inr ⟨_, .reap, rfl, (Step.reap stage ended).apply⟩)
  | returned outcome => exact .inl ⟨outcome, rfl⟩

/-! ## There are only so many steps -/

end RunState

/-- How many steps the runner is away from its return. -/
def RunnerStage.remaining : RunnerStage → Nat
  | writing => 7
  | joining .output => 6
  | joining .errors => 5
  | cancelling => 4
  | awaitingWatchdog => 3
  | locking => 2
  | waiting => 1
  | returned _ => 0

/-- How many steps the watchdog is away from being done. -/
def WatchdogState.remaining : WatchdogState → Nat
  | armed => 4
  | expired => 3
  | holding => 2
  | striking => 1
  | absent | dismissed _ | thwarted => 0

/-- How many steps a drain is away from being done, apart from what it has to read. -/
def DrainState.remaining : DrainState → Nat
  | reading => 1
  | ended | failed => 0

/-- How many steps a drain can make with what is in its pipe. -/
def Outflow.remaining (flow : Outflow) : Nat :=
  flow.inPipe.length + flow.drain.remaining

namespace RunState

variable {capacities : Capacities} {state following : RunState} {event : RunEvent}

/-- How many steps the runner and its helpers can make at most when the streams are over. -/
def remaining (state : RunState) : Nat :=
  state.unsent.length + (!state.writeFailed).toNat + state.stage.remaining +
    state.watchdog.remaining + state.output.remaining + state.errors.remaining

private theorem remaining_withProcess (actor : Actor) (process : ProcessState) :
    (state.withProcess actor process).remaining = state.remaining := by
  cases actor <;> rfl

private theorem remaining_withOutflow (state : RunState) (outlet : Outlet) (flow : Outflow) :
    (state.withOutflow outlet flow).remaining + (state.outflow outlet).remaining =
      state.remaining + flow.remaining := by
  cases outlet <;> simp only [remaining, withOutflow, outflow] <;> omega

/-- Where the streams are over, a step of the runner or its helpers leaves fewer, and no other step
leaves more. -/
theorem StreamsOver.remaining_step (quiet : state.StreamsOver capacities)
    (step : Step capacities state event following) :
    following.remaining + event.isRunner.toNat ≤ state.remaining := by
  cases step with
  | send there _ _ _ pending =>
      simp only [remaining, RunEvent.isRunner, List.length_drop, Bool.toNat_true]
      omega
  | sendFails _ unfailed | sendBreaks _ unfailed =>
      simp only [remaining, RunEvent.isRunner, unfailed, Bool.not_true, Bool.not_false,
        Bool.toNat_true, Bool.toNat_false]
      omega
  | closeInput there | joinOutput there | joinErrors there | joinErrorsWatched there | cancel there
  | joinWatchdog there | lock there | reap there =>
      simp only [remaining, RunEvent.isRunner, there, RunnerStage.remaining, Bool.toNat_true]
      omega
  | expire now | heed now | takeLock now | pollAlive now | pollEnded now | killAlive now
  | killEnded now | killFails now =>
      simp only [remaining, RunEvent.isRunner, now, WatchdogState.remaining, Bool.toNat_true,
        Bool.toNat_false]
      omega
  | @drain outlet count reading positive available =>
      have moved := remaining_withOutflow state outlet
        { state.outflow outlet with
          inPipe := (state.outflow outlet).inPipe.drop count
          gathered := (state.outflow outlet).gathered ++ (state.outflow outlet).inPipe.take count }
      simp only [Outflow.remaining, List.length_drop] at moved
      simp only [RunEvent.isRunner, Bool.toNat_true]
      omega
  | @drainEnds outlet reading =>
      have moved := remaining_withOutflow state outlet
        { state.outflow outlet with drain := .ended }
      simp only [Outflow.remaining, reading, DrainState.remaining] at moved
      simp only [RunEvent.isRunner, Bool.toNat_true]
      omega
  | @drainFails outlet reading =>
      have moved := remaining_withOutflow state outlet
        { state.outflow outlet with drain := .failed }
      simp only [Outflow.remaining, reading, DrainState.remaining] at moved
      simp only [RunEvent.isRunner, Bool.toNat_false]
      omega
  | @writes actor process outlet bytes found _ writer reading =>
      -- Nobody can write a stream that is still read.
      have unwritten := quiet.unwritten outlet reading
      rw [hasWriter_eq_isHeld] at unwritten
      cases unwritten.symm.trans
        (isHeld_iff.mpr ⟨actor, process, found, by rwa [Ends.has_streamName]⟩)
  | seesEnd | closes | ends => exact Nat.le_of_eq (remaining_withProcess ..)
  | reads | forks => exact Nat.le_refl _

/-- Along whatever happens once the streams are over, the runner and its helpers make only so many
steps. -/
theorem StreamsOver.steps_le (quiet : state.StreamsOver capacities) {events : List RunEvent}
    {later : RunState}
    (happens : events.foldlM (fun state event => state.apply capacities event) state =
      some later) :
    later.StreamsOver capacities ∧
      later.remaining + events.countP RunEvent.isRunner ≤ state.remaining := by
  induction events generalizing state with
  | nil =>
      obtain rfl := Option.some.inj happens
      exact ⟨quiet, Nat.le_refl _⟩
  | cons event rest ih =>
      rw [List.foldlM_cons] at happens
      obtain ⟨next, applied, happens⟩ := Option.bind_eq_some_iff.mp happens
      have step := apply_eq_some_iff.mp applied
      obtain ⟨quietLater, fewer⟩ := ih (quiet.step step) happens
      have first := quiet.remaining_step step
      refine ⟨quietLater, ?_⟩
      rw [List.countP_cons]
      cases own : event.isRunner with
      | true =>
          rw [own, Bool.toNat_true] at first
          rw [if_pos rfl]
          omega
      | false =>
          rw [own, Bool.toNat_false] at first
          rw [if_neg Bool.false_ne_true]
          omega

end RunState

end FlowCheck
