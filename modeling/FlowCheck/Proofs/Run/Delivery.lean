import FlowCheck.Host
import FlowCheck.Proofs.Run.Invariant
import FlowCheck.Proofs.Text.Lossy

/-! # What goes through the pipes

Nothing is lost, told twice, moved or mixed on its way through a pipe: at every moment, what was
read, what is in the pipe and what is still to be written make up the document, and what a drain has
gathered and what is in its pipe make up what was written to that outlet. So when the runner comes
to a result, it has all that was written to the output and nothing else, and when a process has seen
the end of its input, the whole document was read unless writing it failed. And a stream fails only
if nobody reads the input to its end, or if a pipe breaks for a reason of its own.
-/

namespace FlowCheck

namespace RunEvent

/-- The bytes that an event writes to an outlet. -/
def bytesFor (outlet : Outlet) : RunEvent → List UInt8
  | writes _ other bytes => if outlet = other then bytes else []
  | _ => []

/-- Whether a pipe breaks in an event, though its other end is open. -/
def isFault : RunEvent → Bool
  | sendBreaks | drainFails _ => true
  | _ => false

end RunEvent

namespace RunState

variable {capacities : Capacities} {document : List UInt8} {hasDeadline : Bool}
  {events : List RunEvent} {state following : RunState} {event : RunEvent} {outlet : Outlet}

/-! ## Runs with their events -/

/-- The runs with a document: the events that lead one after the other from the beginning to a
state. -/
inductive IsRun (capacities : Capacities) (document : List UInt8) (hasDeadline : Bool) :
    List RunEvent → RunState → Prop where
  | start : IsRun capacities document hasDeadline [] (initial document hasDeadline)
  | step {events : List RunEvent} {state following : RunState} {event : RunEvent} :
      IsRun capacities document hasDeadline events state → Step capacities state event following →
      IsRun capacities document hasDeadline (events ++ [event]) following

/-- A run leads to a state that can be reached. -/
theorem IsRun.reachable (run : IsRun capacities document hasDeadline events state) :
    Reachable capacities document hasDeadline state := by
  induction run with
  | start => exact .refl
  | step _ step ih => exact .step _ ih step.apply

/-- Events that are possible one after the other make a run longer. -/
theorem IsRun.append (run : IsRun capacities document hasDeadline events state)
    {later : List RunEvent}
    (applied : later.foldlM (fun state event => state.apply capacities event) state =
      some following) : IsRun capacities document hasDeadline (events ++ later) following := by
  induction later generalizing events state with
  | nil =>
      obtain rfl := Option.some.inj applied
      rwa [List.append_nil]
  | cons event rest ih =>
      rw [List.foldlM_cons] at applied
      obtain ⟨next, first, others⟩ := Option.bind_eq_some_iff.mp applied
      rw [List.append_cons]
      exact ih (run.step (apply_eq_some_iff.mp first)) others

/-! ## The pipe to the checker -/

/-- Whether some process has come to the end of its input. -/
def SawEnd (state : RunState) : Prop :=
  ∃ actor process, state.process? actor = some process ∧ process.sawEnd = true

private theorem sawEnd_of_withProcess {actor : Actor} {process changed : ProcessState}
    (found : state.process? actor = some process) (same : changed.sawEnd = process.sawEnd)
    (saw : (state.withProcess actor changed).SawEnd) : state.SawEnd := by
  obtain ⟨other, reader, present, ended⟩ := saw
  rw [process?_withProcess, found] at present
  split at present
  · obtain rfl := Option.some.inj present
    exact ⟨actor, process, found, same ▸ ended⟩
  · exact ⟨other, reader, present, ended⟩

/-- A process comes to the end of its input only when the pipe is empty and closed. -/
theorem Step.sawEnd (step : Step capacities state event following) (saw : following.SawEnd) :
    state.SawEnd ∨ state.hasReader = true ∧ state.inputOpen = false ∧ state.inPipe = [] ∧
      following.inputOpen = false ∧ following.inPipe = [] := by
  cases step with
  | drain | drainEnds | drainFails | writes =>
      unfold SawEnd at saw
      rw [withOutflow_process?] at saw
      exact .inl saw
  | @seesEnd actor process found alive reader empty closed =>
      have held : state.hasReader = true :=
        hasReader_eq_isHeld.trans (isHeld_iff.mpr ⟨actor, process, found, reader⟩)
      rw [withProcess_inputOpen, withProcess_inPipe]
      exact .inr ⟨held, closed, empty, closed, empty⟩
  | closes found | ends found =>
      refine .inl (sawEnd_of_withProcess found ?_ saw)
      rfl
  | killAlive =>
      have found : state.process? .checker = some state.checker := rfl
      change (state.withProcess .checker (state.checker.finish (.killed 9))).SawEnd at saw
      refine .inl (sawEnd_of_withProcess found ?_ saw)
      rfl
  | forks =>
      obtain ⟨actor, process, found, ended⟩ := saw
      rcases process?_of_started found with before | rfl
      · exact .inl ⟨actor, process, before, ended⟩
      · cases ended
  | _ => exact .inl saw

/-- What was read, what is in the pipe and what is to be written make up the document. What is to be
written when the runner has left off is what it failed to write. And whoever has seen the end has
seen an empty pipe that nobody writes any more. -/
structure IsFed (document : List UInt8) (state : RunState) : Prop where
  whole : state.consumed ++ state.inPipe ++ state.unsent = document
  sent : state.stage ≠ .writing → state.writeFailed = true ∨ state.unsent = []
  seen : state.SawEnd → state.inputOpen = false ∧ state.inPipe = []

/-- No step changes what the three parts of the document make up. -/
theorem Step.whole (step : Step capacities state event following) :
    following.consumed ++ following.inPipe ++ following.unsent =
      state.consumed ++ state.inPipe ++ state.unsent := by
  cases step with
  | send => simp only [List.append_assoc, List.take_append_drop]
  | reads => rw [List.append_assoc state.consumed, List.take_append_drop]
  | drain | drainEnds | drainFails | writes =>
      rw [withOutflow_consumed, withOutflow_inPipe, withOutflow_unsent]
  | seesEnd | closes | ends =>
      rw [withProcess_consumed, withProcess_inPipe, withProcess_unsent]
  | _ => rfl

/-- The runner leaves off writing when it has failed or nothing is left. -/
theorem Step.sent (step : Step capacities state event following)
    (before : state.stage ≠ .writing → state.writeFailed = true ∨ state.unsent = [])
    (elsewhere : following.stage ≠ .writing) :
    following.writeFailed = true ∨ following.unsent = [] := by
  cases step with
  | send there | sendFails there | sendBreaks there => exact (elsewhere there).elim
  | closeInput _ finished => exact finished
  | joinOutput there | joinErrors there | joinErrorsWatched there | cancel there
  | joinWatchdog there | lock there | reap there => exact before (by rw [there]; nofun)
  | drain | drainEnds | drainFails | writes =>
      rw [withOutflow_stage] at elsewhere
      rw [withOutflow_writeFailed, withOutflow_unsent]
      exact before elsewhere
  | seesEnd | closes | ends =>
      rw [withProcess_stage] at elsewhere
      rw [withProcess_writeFailed, withProcess_unsent]
      exact before elsewhere
  | _ => exact before elsewhere

/-- What is closed and empty stays so. -/
theorem Step.closed_empty (step : Step capacities state event following)
    (orderly : state.IsOrderly) (before : state.inputOpen = false ∧ state.inPipe = []) :
    following.inputOpen = false ∧ following.inPipe = [] := by
  obtain ⟨closed, empty⟩ := before
  -- Only sending fills the pipe, and the runner sends only while it holds the input open.
  cases step with
  | send writing => cases closed.symm.trans (orderly.inputOpen_iff.mpr writing)
  | closeInput => exact ⟨rfl, empty⟩
  | reads => exact ⟨closed, by rw [empty, List.drop_nil]⟩
  | drain | drainEnds | drainFails | writes =>
      rw [withOutflow_inputOpen, withOutflow_inPipe]
      exact ⟨closed, empty⟩
  | seesEnd | closes | ends =>
      rw [withProcess_inputOpen, withProcess_inPipe]
      exact ⟨closed, empty⟩
  | _ => exact ⟨closed, empty⟩

/-- Every step keeps the document together. -/
theorem Step.isFed (step : Step capacities state event following) (orderly : state.IsOrderly)
    (fed : state.IsFed document) : following.IsFed document where
  whole := step.whole.trans fed.whole
  sent := step.sent fed.sent
  seen := by
    intro saw
    rcases step.sawEnd saw with earlier | ⟨_, _, _, closed, empty⟩
    · exact step.closed_empty orderly (fed.seen earlier)
    · exact ⟨closed, empty⟩

private theorem initial_isFed : (initial document hasDeadline).IsFed document where
  whole := rfl
  sent := fun elsewhere => (elsewhere rfl).elim
  seen := by
    rintro ⟨actor, process, found, ended⟩
    cases actor with
    | checker =>
        obtain rfl := Option.some.inj found
        cases ended
    | descendant number => cases found

/-- Whatever is reached, the document is together. -/
theorem Reachable.isFed (reachable : Reachable capacities document hasDeadline state) :
    state.IsFed document := by
  induction reachable with
  | refl => exact initial_isFed
  | step event earlier applied ih =>
      exact (apply_eq_some_iff.mp applied).isFed (Reachable.isOrderly earlier) ih

/-! ## The pipes from the checker -/

/-- What a drain has gathered and what is in its pipe make up what was written to the outlet, and a
drain that came to the end has left nothing. -/
structure IsDrained (flow : Outflow) : Prop where
  whole : flow.gathered ++ flow.inPipe = flow.written
  emptied : flow.drain = .ended → flow.inPipe = []

/-- Every step keeps together what was written to an outlet. -/
theorem Step.isDrained (step : Step capacities state event following)
    (drained : IsDrained (state.outflow outlet)) : IsDrained (following.outflow outlet) := by
  cases step with
  | @drain other count reading =>
      rw [outflow_withOutflow]
      split
      · next same =>
          subst same
          refine ⟨?_, fun ended => ?_⟩
          · rw [List.append_assoc, List.take_append_drop, drained.whole]
          · cases reading.symm.trans ended
      · exact drained
  | @drainEnds other reading empty =>
      rw [outflow_withOutflow]
      split
      · next same =>
          subst same
          exact ⟨drained.whole, fun _ => empty⟩
      · exact drained
  | @drainFails other reading =>
      rw [outflow_withOutflow]
      split
      · next same =>
          subst same
          exact ⟨drained.whole, nofun⟩
      · exact drained
  | @writes _ _ other bytes _ _ _ reading =>
      rw [outflow_withOutflow]
      split
      · next same =>
          subst same
          refine ⟨?_, fun ended => ?_⟩
          · rw [← List.append_assoc, drained.whole]
          · cases reading.symm.trans ended
      · exact drained
  | seesEnd | closes | ends => rwa [withProcess_outflow]
  | _ => cases outlet <;> exact drained

/-- What was written to an outlet grows by what an event writes to it. -/
theorem Step.written (step : Step capacities state event following) :
    (following.outflow outlet).written =
      (state.outflow outlet).written ++ event.bytesFor outlet := by
  cases step with
  | drain | drainEnds | drainFails =>
      rw [outflow_withOutflow]
      refine Eq.trans ?_ (List.append_nil _).symm
      split
      · next same => rw [same]
      · rfl
  | writes =>
      rw [outflow_withOutflow, RunEvent.bytesFor]
      split
      · next same => rw [same]
      · rw [List.append_nil]
  | seesEnd | closes | ends =>
      rw [withProcess_outflow]
      exact (List.append_nil _).symm
  | _ => cases outlet <;> exact (List.append_nil _).symm

/-- Whatever is reached, what was written to an outlet is together. -/
theorem Reachable.isDrained (reachable : Reachable capacities document hasDeadline state) :
    IsDrained (state.outflow outlet) := by
  induction reachable with
  | refl => cases outlet <;> exact ⟨rfl, nofun⟩
  | step event _ applied ih => exact (apply_eq_some_iff.mp applied).isDrained ih

/-- What was written to an outlet is what the events of the run write to it, one after the other. -/
theorem IsRun.written (run : IsRun capacities document hasDeadline events state) :
    (state.outflow outlet).written = events.flatMap (RunEvent.bytesFor outlet) := by
  induction run with
  | start => cases outlet <;> rfl
  | step _ step ih =>
      rw [step.written, ih, List.flatMap_append, List.flatMap_singleton]

/-! ## The result -/

@[simp] theorem outcome_withProcess (actor : Actor) (process : ProcessState) (ending : Ending) :
    (state.withProcess actor process).outcome ending = state.outcome ending := by
  cases actor <;> rfl

/-- A result was taken after the checker had ended, from what can still be seen. -/
def IsConcluded (state : RunState) : Prop :=
  ∀ outcome, state.stage = .returned outcome →
    ∃ ending, state.checker.ending = some ending ∧ outcome = state.outcome ending

/-- Nothing that a result was taken from changes later. -/
theorem Step.isConcluded (step : Step capacities state event following)
    (orderly : state.IsOrderly) (guarded : state.IsGuarded) (concluded : state.IsConcluded) :
    following.IsConcluded := by
  intro outcome returned
  have elsewhere : ∀ {actor process changed}, state.process? actor = some process →
      process.isAlive = true → state.stage = .returned outcome →
      ∃ ending, (state.withProcess actor changed).checker.ending = some ending ∧
        outcome = (state.withProcess actor changed).outcome ending := by
    intro actor process changed found alive there
    obtain ⟨ending, ended, same⟩ := concluded outcome there
    refine ⟨ending, ?_, same.trans (outcome_withProcess ..).symm⟩
    cases actor with
    | checker =>
        obtain rfl := Option.some.inj found
        cases alive.symm.trans (ProcessState.isAlive_eq_false_iff.mpr ⟨ending, ended⟩)
    | descendant number => exact ended
  cases step with
  | reap waiting ended =>
      obtain rfl := RunnerStage.returned.inj returned
      exact ⟨_, ended, rfl⟩
  | closeInput | joinOutput | joinErrors | joinErrorsWatched | cancel | joinWatchdog | lock =>
      cases returned
  | send writing | sendFails writing | sendBreaks writing => cases writing.symm.trans returned
  | drain reading | drainEnds reading | drainFails reading | writes _ _ _ reading =>
      rw [withOutflow_stage] at returned
      exact (orderly.joined _ (by rw [returned]; rfl) reading).elim
  | expire now | heed now | takeLock now | pollAlive now | pollEnded now | killAlive now
  | killEnded now | killFails now =>
      have settled := guarded.settled (by rw [show state.stage = _ from returned]; rfl)
      rw [now] at settled
      rcases settled with absent | done
      · cases absent
      · cases done
  | seesEnd found alive | closes found alive | ends found alive =>
      rw [withProcess_stage] at returned
      exact elsewhere found alive returned
  | reads | forks => exact concluded outcome returned

/-- Whatever is reached, a result was taken after the checker had ended. -/
theorem Reachable.isConcluded (reachable : Reachable capacities document hasDeadline state) :
    state.IsConcluded := by
  induction reachable with
  | refl => nofun
  | step event earlier applied ih =>
      exact (apply_eq_some_iff.mp applied).isConcluded (Reachable.isOrderly earlier)
        (Reachable.isGuarded earlier) ih

/-- A finished run has its output from a drain, and no drain has failed. -/
theorem outcome_eq_finished {ending last : Ending} {output : List UInt8}
    (finished : state.outcome ending = .finished output last) :
    (∀ outlet, (state.outflow outlet).drain ≠ .failed) ∧
      output = state.output.gathered ∧ last = ending := by
  unfold outcome at finished
  split at finished
  · cases finished
  · split at finished
    · cases finished
    · split at finished
      · cases finished
      · next unfailed =>
          split at finished
          · cases finished
          · next unfailedErrors =>
              obtain ⟨rfl, rfl⟩ := RunOutcome.finished.inj finished
              refine ⟨fun outlet => ?_, rfl, rfl⟩
              cases outlet with
              | output => exact unfailed
              | errors => exact unfailedErrors

/-- Where no stream has failed, the checker was killed or has finished. -/
theorem outcome_of_unfailed (ending : Ending) (written : state.writeFailed = false)
    (unfailed : ∀ outlet, (state.outflow outlet).drain ≠ .failed) :
    state.outcome ending = .timedOut ∨
      state.outcome ending = .finished state.output.gathered ending := by
  have unfailedOutput : state.output.drain ≠ .failed := unfailed .output
  have unfailedErrors : state.errors.drain ≠ .failed := unfailed .errors
  unfold outcome
  rw [written, if_neg Bool.false_ne_true, if_neg unfailedOutput, if_neg unfailedErrors]
  split
  · exact .inl rfl
  · exact .inr rfl

/-- When a run has returned, each drain has failed or come to the end of its stream. -/
theorem IsOrderly.drain_done (orderly : state.IsOrderly) {outcome : RunOutcome}
    (returned : state.stage = .returned outcome)
    (unfailed : (state.outflow outlet).drain ≠ .failed) :
    (state.outflow outlet).drain = .ended := by
  cases drain : (state.outflow outlet).drain with
  | reading => exact (orderly.joined outlet (by rw [returned]; rfl) drain).elim
  | ended => rfl
  | failed => exact (unfailed drain).elim

/-! ## Runs without faults -/

/-- Writing fails where the pipe breaks or has no reader. -/
theorem Step.writeFailed_cases (step : Step capacities state event following) :
    following.writeFailed = state.writeFailed ∨ event = .sendBreaks ∨
      state.stage = .writing ∧ state.hasReader = false := by
  cases step with
  | sendFails writing _ unread => exact .inr (.inr ⟨writing, unread⟩)
  | sendBreaks => exact .inr (.inl rfl)
  | drain | drainEnds | drainFails | writes => exact .inl (withOutflow_writeFailed ..)
  | seesEnd | closes | ends => exact .inl (withProcess_writeFailed ..)
  | _ => exact .inl rfl

/-- Without faults, writing fails only when nobody can read any more and nobody has read to the end,
and then nobody ever will. -/
theorem Step.unread (step : Step capacities state event following)
    (harmless : event.isFault = false) (orderly : state.IsOrderly) (fed : state.IsFed document)
    (before : state.writeFailed = true → state.hasReader = false ∧ ¬ state.SawEnd)
    (failed : following.writeFailed = true) :
    following.hasReader = false ∧ ¬ following.SawEnd := by
  obtain ⟨unread, unseen⟩ : state.hasReader = false ∧ ¬ state.SawEnd := by
    rcases step.writeFailed_cases with same | broken | ⟨writing, unread⟩
    · exact before (same ▸ failed)
    · rw [broken] at harmless
      cases harmless
    · refine ⟨unread, fun saw => ?_⟩
      cases (fed.seen saw).1.symm.trans (orderly.inputOpen_iff.mpr writing)
  refine ⟨step.hasReader_eq_false unread, fun saw => ?_⟩
  rcases step.sawEnd saw with earlier | ⟨reader, _⟩
  · exact unseen earlier
  · cases unread.symm.trans reader

/-- Only a fault makes a drain fail. -/
theorem Step.unfailed (step : Step capacities state event following)
    (harmless : event.isFault = false) (before : (state.outflow outlet).drain ≠ .failed) :
    (following.outflow outlet).drain ≠ .failed := by
  rcases step.drain_cases outlet with same | ⟨_, ⟨ended, _⟩ | ⟨_, broken⟩⟩
  · rwa [same]
  · rw [ended]
    nofun
  · rw [broken] at harmless
    cases harmless

/-- In a run without faults no drain fails, and writing fails only if nobody reads to the end. -/
theorem IsRun.harmless (run : IsRun capacities document hasDeadline events state)
    (faultless : ∀ event ∈ events, event.isFault = false) :
    (∀ outlet, (state.outflow outlet).drain ≠ .failed) ∧
      (state.writeFailed = true → state.hasReader = false ∧ ¬ state.SawEnd) := by
  induction run with
  | start => exact ⟨fun outlet => by cases outlet <;> nofun, nofun⟩
  | step earlier step ih =>
      have reachable := earlier.reachable
      obtain ⟨unfailed, unread⟩ := ih fun event member =>
        faultless event (List.mem_append_left _ member)
      have harmless := faultless _ List.mem_concat_self
      exact ⟨fun outlet => step.unfailed harmless (unfailed outlet),
        step.unread harmless reachable.isOrderly reachable.isFed unread⟩

/-! ## Delivery -/

/-- **Pipes deliver.** What the processes have read is at every moment a beginning of the document,
and all of it once one of them has seen the end after a write that did not fail. What a drain has
gathered is a beginning of what the processes have written to its outlet. When the run comes to a
result, the checker has ended and both drains came to the ends of their streams; the result holds
what was written to the output, read as text, and the checker's exit code; a text that was written
is read as it was. And if some process has read to the end of its input and no pipe broke, the run
does not fail because of a stream. -/
theorem data_delivered (run : IsRun capacities document hasDeadline events state) :
    state.consumed <+: document ∧
    (∀ actor process, state.process? actor = some process → process.sawEnd = true →
      state.writeFailed = false → state.consumed = document) ∧
    (∀ outlet, (state.outflow outlet).gathered ++ (state.outflow outlet).inPipe =
      events.flatMap (RunEvent.bytesFor outlet)) ∧
    (∀ outcome deadline elapsed, state.stage = .returned outcome →
      (∀ finished, outcome.result deadline elapsed = .ok finished →
        ∃ ending, state.checker.ending = some ending ∧
          (∀ outlet, (state.outflow outlet).drain = .ended) ∧
          finished.output = Text.ofBytes (events.flatMap (RunEvent.bytesFor .output)) ∧
          (∀ text : String, events.flatMap (RunEvent.bytesFor .output) = text.toUTF8.toList →
            finished.output = text) ∧
          finished.exitCode = ending.exitCode) ∧
      (∀ actor process, state.process? actor = some process → process.sawEnd = true →
        (∀ event ∈ events, event.isFault = false) → ∀ stream cause,
          outcome.result deadline elapsed ≠ .error (.streamFailed stream cause))) := by
  have reachable := run.reachable
  have fed := reachable.isFed
  have orderly := reachable.isOrderly
  have kept : ∀ outlet, (state.outflow outlet).gathered ++ (state.outflow outlet).inPipe =
      events.flatMap (RunEvent.bytesFor outlet) :=
    fun outlet => reachable.isDrained.whole.trans run.written
  refine ⟨⟨state.inPipe ++ state.unsent, ?_⟩, ?_, kept, ?_⟩
  · rw [← List.append_assoc, fed.whole]
  · intro actor process found ended written
    obtain ⟨closed, empty⟩ := fed.seen ⟨actor, process, found, ended⟩
    have left : state.stage ≠ .writing := fun writing =>
      nomatch closed.symm.trans (orderly.inputOpen_iff.mpr writing)
    have sent : state.unsent = [] :=
      (fed.sent left).resolve_left fun failed => nomatch written.symm.trans failed
    rw [← fed.whole, empty, sent, List.append_nil, List.append_nil]
  · intro outcome deadline elapsed returned
    obtain ⟨ending, ended, rfl⟩ := reachable.isConcluded outcome returned
    constructor
    · intro finished result
      cases taken : state.outcome ending with
      | timedOut | inputFailed | drainFailed =>
          rw [taken] at result
          cases result
      | finished output last =>
          rw [taken] at result
          obtain rfl := Except.ok.inj result
          obtain ⟨unfailed, rfl, rfl⟩ := outcome_eq_finished taken
          have done : ∀ outlet, (state.outflow outlet).drain = .ended :=
            fun outlet => orderly.drain_done returned (unfailed outlet)
          have empty : (state.outflow .output).inPipe = [] := reachable.isDrained.emptied (done _)
          have all := kept .output
          rw [empty, List.append_nil] at all
          refine ⟨_, ended, done, congrArg Text.ofBytes all, ?_, rfl⟩
          intro text written
          change Text.ofBytes (state.outflow .output).gathered = text
          rw [all, written, Text.ofBytes_toUTF8]
    · intro actor process found saw faultless stream cause failed
      obtain ⟨unfailed, unread⟩ := run.harmless faultless
      have written : state.writeFailed = false :=
        Bool.eq_false_iff.mpr fun failed => (unread failed).2 ⟨actor, process, found, saw⟩
      rcases outcome_of_unfailed ending written unfailed with killed | finished
      · rw [killed] at failed
        cases failed
      · rw [finished] at failed
        cases failed

/-- With pipes of one byte, a checker reads its document of one byte to the end, writes to both
outlets and exits with code 2. The result is the byte of the output, not that of the errors. -/
theorem data_delivered_beside_errors :
    ∃ events state, IsRun ⟨1, 1, 1⟩ [7] false events state ∧
      events.flatMap (RunEvent.bytesFor .errors) = [0x65] ∧
      state.stage = .returned (.finished [0x6f] (.exited 2)) ∧ state.writeFailed = false ∧
      state.checker.sawEnd = true ∧ (∀ event ∈ events, event.isFault = false) ∧
      state.consumed = [7] ∧
      Text.ofBytes [0x6f] = Text.ofBytes (events.flatMap (RunEvent.bytesFor .output)) ∧
      ∀ stream cause, (RunOutcome.finished [0x6f] (.exited 2)).result none 0 ≠
        .error (.streamFailed stream cause) := by
  let events : List RunEvent :=
    [.send 1, .reads .checker 1, .writes .checker .errors [0x65], .writes .checker .output [0x6f],
      .drain .errors 1, .closeInput, .seesEnd .checker, .drain .output 1,
      .ends .checker (.exited 2), .drainEnds .output, .drainEnds .errors, .join .output,
      .join .errors, .lock, .reap]
  let returned : RunState :=
    { unsent := []
      consumed := [7]
      inputOpen := false
      output := { written := [0x6f], gathered := [0x6f], drain := .ended }
      errors := { written := [0x65], gathered := [0x65], drain := .ended }
      stage := .returned (.finished [0x6f] (.exited 2))
      watchdog := .absent
      checker := { ends := .none, ending := some (.exited 2), sawEnd := true } }
  have run : IsRun ⟨1, 1, 1⟩ [7] false events returned :=
    IsRun.start.append (show events.foldlM _ (initial [7] false) = some returned from rfl)
  have faultless : ∀ event ∈ events, event.isFault = false := by decide
  obtain ⟨-, whole, -, result⟩ := data_delivered run
  obtain ⟨finished, unfailed⟩ := result _ none 0 rfl
  obtain ⟨_, -, -, output, -⟩ := finished _ rfl
  exact ⟨events, returned, run, rfl, rfl, rfl, rfl, faultless, whole .checker _ rfl rfl rfl, output,
    unfailed .checker _ rfl rfl faultless⟩

end RunState

end FlowCheck
