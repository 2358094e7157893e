import FlowCheck.Proofs.Run.Delivery
import FlowCheck.Proofs.Run.Settling
import Mathlib.Data.List.Induction

/-! # When a run times out

The watchdog kills the checker only after the deadline has passed and it has found the checker
alive, and only a kill lets it report one. The runner waits for this report before it answers, and
it asks for it before anything else. So whatever else has failed meanwhile, the answer is a timeout
exactly if the kill has succeeded. A checker that ends before the watchdog looks is spared, even if
one of its descendants keeps the streams open for longer.
-/

namespace FlowCheck

/-- Whether the watchdog has found the checker alive after the deadline. -/
def WatchdogState.hasFound : WatchdogState → Bool
  | striking | dismissed true | thwarted => true
  | _ => false

/-- Whether the deadline has passed before the watchdog was told that it is not needed. -/
def WatchdogState.hasWoken : WatchdogState → Bool
  | expired | holding => true
  | watchdog => watchdog.hasFound

namespace RunState

variable {capacities : Capacities} {document : List UInt8} {hasDeadline : Bool}
  {events : List RunEvent} {state following : RunState} {event : RunEvent}

/-! ## What the watchdog has done -/

private theorem Step.woken_cases (step : Step capacities state event following)
    (woken : following.watchdog.hasWoken = true) :
    state.watchdog.hasWoken = true ∨ event = .expire := by
  cases step with
  | expire => exact .inr rfl
  | heed | pollEnded => cases woken
  | takeLock now | pollAlive now | killAlive now | killEnded now | killFails now =>
      exact .inl (by rw [now]; rfl)
  | drain | drainEnds | drainFails | writes => exact .inl (by rwa [withOutflow_watchdog] at woken)
  | seesEnd | closes | ends => exact .inl (by rwa [withProcess_watchdog] at woken)
  | _ => exact .inl woken

private theorem Step.found_cases (step : Step capacities state event following)
    (found : following.watchdog.hasFound = true) :
    state.watchdog.hasFound = true ∨
      event = .poll ∧ state.watchdog = .holding ∧ state.checker.isAlive = true := by
  cases step with
  | pollAlive now alive => exact .inr ⟨rfl, now, alive⟩
  | expire | heed | takeLock | pollEnded => cases found
  | killAlive now | killEnded now | killFails now => exact .inl (by rw [now]; rfl)
  | drain | drainEnds | drainFails | writes => exact .inl (by rwa [withOutflow_watchdog] at found)
  | seesEnd | closes | ends => exact .inl (by rwa [withProcess_watchdog] at found)
  | _ => exact .inl found

/-- The watchdog has killed the checker exactly if it does so now or did before. -/
theorem Step.killed_iff (step : Step capacities state event following) :
    following.watchdog = .dismissed true ↔ state.watchdog = .dismissed true ∨ event = .kill := by
  cases step with
  | killAlive | killEnded => exact ⟨fun _ => .inr rfl, fun _ => rfl⟩
  | expire now | heed now | takeLock now | pollAlive now | pollEnded now | killFails now =>
      simp [now]
  | drain | drainEnds | drainFails | writes => simp
  | seesEnd | closes | ends => simp
  | _ => simp

/-- A checker comes to its end by the kill or by itself, and only once. -/
theorem Step.ending_cases (step : Step capacities state event following) {ending : Ending}
    (ended : following.checker.ending = some ending) :
    state.checker.ending = some ending ∨ state.checker.isAlive = true ∧
      (event = .kill ∧ ending = .killed 9 ∨ event = .ends .checker ending) := by
  cases step with
  | killAlive _ alive => exact .inr ⟨alive, .inl ⟨rfl, (Option.some.inj ended).symm⟩⟩
  | drain | drainEnds | drainFails | writes => exact .inl (by rwa [withOutflow_checker] at ended)
  | @seesEnd actor process found | @closes actor process _ found =>
      cases actor with
      | checker =>
          obtain rfl := Option.some.inj found
          exact .inl ended
      | descendant number => exact .inl ended
  | @ends actor process last found alive =>
      cases actor with
      | checker =>
          obtain rfl := Option.some.inj found
          exact .inr ⟨alive, .inr (by rw [Option.some.inj ended])⟩
      | descendant number => exact .inl ended
  | _ => exact .inl ended

/-- The checker has come to an end, and the watchdog has not found it alive. -/
structure IsSpared (ending : Ending) (state : RunState) : Prop where
  ended : state.checker.ending = some ending
  unfound : state.watchdog.hasFound = false

/-- A spared checker stays spared. -/
theorem Step.isSpared (step : Step capacities state event following) {ending : Ending}
    (spared : state.IsSpared ending) : following.IsSpared ending := by
  have gone : state.checker.isAlive = false :=
    ProcessState.isAlive_eq_false_iff.mpr ⟨ending, spared.ended⟩
  constructor
  · obtain ⟨last, ended⟩ := ProcessState.isAlive_eq_false_iff.mp (step.checker_ended gone)
    rcases step.ending_cases ended with same | ⟨alive, -⟩
    · rw [ended, ← same, spared.ended]
    · cases gone.symm.trans alive
  · apply Bool.eq_false_iff.mpr
    intro found
    rcases step.found_cases found with before | ⟨-, -, alive⟩
    · cases spared.unfound.symm.trans before
    · cases gone.symm.trans alive

/-- A spared checker stays spared in all steps to come. -/
theorem Steps.isSpared {later : RunState} (steps : Steps capacities state later) {ending : Ending}
    (spared : state.IsSpared ending) : later.IsSpared ending := by
  induction steps with
  | refl => exact spared
  | step event _ applied ih => exact (apply_eq_some_iff.mp applied).isSpared ih

/-! ## Runs -/

private theorem IsRun.expire_mem (run : IsRun capacities document hasDeadline events state)
    (woken : state.watchdog.hasWoken = true) : .expire ∈ events := by
  induction run with
  | start => cases hasDeadline <;> cases woken
  | step _ step ih =>
      rcases step.woken_cases woken with earlier | rfl
      · exact List.mem_append_left _ (ih earlier)
      · exact List.mem_concat_self

/-- The watchdog has killed the checker exactly if there was a kill in the run. -/
theorem IsRun.killed_iff (run : IsRun capacities document hasDeadline events state) :
    state.watchdog = .dismissed true ↔ .kill ∈ events := by
  induction run with
  | start => cases hasDeadline <;> simp [initial]
  | @step events _ _ event _ step ih =>
      rw [step.killed_iff, ih, List.mem_append, List.mem_singleton, eq_comm]

/-- A killed checker has ended. -/
theorem IsRun.killed_ended (run : IsRun capacities document hasDeadline events state)
    (killed : state.watchdog = .dismissed true) : state.checker.isAlive = false := by
  induction run with
  | start => cases hasDeadline <;> cases killed
  | step _ step ih =>
      rcases step.killed_iff.mp killed with earlier | rfl
      · exact step.checker_ended (ih earlier)
      · cases step with
        | killAlive => rfl
        | killEnded _ ended => exact ended

/-- A run in which the watchdog finds the checker alive: it looks after the deadline has passed, and
the checker ends after that, by the kill or by itself before it. -/
structure FoundAlive (capacities : Capacities) (document : List UInt8) (hasDeadline : Bool)
    (before after : List RunEvent) (state : RunState) : Prop where
  late : .expire ∈ before
  alive : ∃ looked, IsRun capacities document hasDeadline before looked ∧
    looked.watchdog = .holding ∧ looked.checker.isAlive = true
  ending : ∀ ending, state.checker.ending = some ending →
    .kill ∈ after ∧ ending = .killed 9 ∨ .ends .checker ending ∈ after

/-- A checker that was found alive was so when the watchdog looked. -/
theorem IsRun.exists_foundAlive (run : IsRun capacities document hasDeadline events state)
    (found : state.watchdog.hasFound = true) :
    ∃ before after, events = before ++ .poll :: after ∧
      FoundAlive capacities document hasDeadline before after state := by
  -- The look is the step that finds it; from then on the checker can only end.
  induction run with
  | start => cases hasDeadline <;> cases found
  | @step events state following event earlier step ih =>
      rcases step.found_cases found with before | ⟨rfl, holding, alive⟩
      · obtain ⟨before, after, rfl, foundAlive⟩ := ih before
        refine ⟨before, after ++ [event], by rw [List.append_assoc, List.cons_append],
          foundAlive.late, foundAlive.alive, fun ending ended => ?_⟩
        rcases step.ending_cases ended with same | ⟨-, ⟨rfl, killed⟩ | rfl⟩
        · exact (foundAlive.ending ending same).imp (.imp_left (List.mem_append_left _))
            (List.mem_append_left _)
        · exact .inl ⟨List.mem_concat_self, killed⟩
        · exact .inr List.mem_concat_self
      · refine ⟨events, [], rfl, earlier.expire_mem (by rw [holding]; rfl),
          ⟨state, earlier, holding, alive⟩, fun ending ended => ?_⟩
        rcases step.ending_cases ended with same | ⟨-, ⟨absurd, -⟩ | absurd⟩
        · cases alive.symm.trans (ProcessState.isAlive_eq_false_iff.mpr ⟨ending, same⟩)
        · cases absurd
        · cases absurd

private theorem IsRun.exists_last
    (run : IsRun capacities document hasDeadline (events ++ [event]) following) :
    ∃ state, IsRun capacities document hasDeadline events state ∧
      Step capacities state event following := by
  generalize whole : events ++ [event] = all at run
  cases run with
  | start => exact (List.concat_ne_nil event events (List.concat_eq_append ▸ whole)).elim
  | step earlier step =>
      obtain ⟨rfl, last⟩ := List.append_inj' whole rfl
      obtain rfl := List.singleton_inj.mp last
      exact ⟨_, earlier, step⟩

private theorem IsRun.exists_beginning {before after : List RunEvent}
    (run : IsRun capacities document hasDeadline (before ++ after) state) :
    ∃ middle, IsRun capacities document hasDeadline before middle ∧
      Steps capacities middle state := by
  induction after using List.reverseRecOn generalizing state with
  | nil =>
      rw [List.append_nil] at run
      exact ⟨state, run, .refl⟩
  | append_singleton rest event ih =>
      rw [← List.append_assoc] at run
      obtain ⟨earlier, run, step⟩ := run.exists_last
      obtain ⟨middle, beginning, steps⟩ := ih run
      exact ⟨middle, beginning, steps.step event step.apply⟩

/-- A checker that ends before the deadline passes, or before the watchdog looks, is spared. -/
theorem IsRun.isSpared {before after : List RunEvent} {ending : Ending}
    (run : IsRun capacities document hasDeadline (before ++ .ends .checker ending :: after) state)
    (early : .expire ∉ before ∨ .poll ∉ before) : state.IsSpared ending := by
  rw [List.append_cons] at run
  obtain ⟨middle, beginning, steps⟩ := run.exists_beginning
  obtain ⟨earlier, beginning, step⟩ := beginning.exists_last
  have unfound : earlier.watchdog.hasFound = false := by
    apply Bool.eq_false_iff.mpr
    intro found
    obtain ⟨sooner, later, rfl, foundAlive⟩ := beginning.exists_foundAlive found
    rcases early with unexpired | unlooked
    · exact unexpired (List.mem_append_left _ foundAlive.late)
    · exact unlooked (List.mem_append_right _ List.mem_cons_self)
  refine steps.isSpared ?_
  cases step with
  | @ends _ process _ found =>
      obtain rfl := Option.some.inj found
      exact ⟨rfl, unfound⟩

/-! ## Ends of the processes that have ended -/

/-- Whatever has ended has no end of a pipe open. -/
def EndedClosed (state : RunState) : Prop :=
  ∀ actor process, state.process? actor = some process → process.isAlive = false →
    process.ends = .none

private theorem EndedClosed.withProcess (closed : state.EndedClosed) {actor : Actor}
    {process changed : ProcessState} (found : state.process? actor = some process)
    (same : changed.isAlive = false → changed.ends = .none) :
    (state.withProcess actor changed).EndedClosed := by
  intro other holder present ended
  rw [process?_withProcess, found] at present
  split at present
  · obtain rfl := Option.some.inj present
    exact same ended
  · exact closed other holder present ended

/-- Every step closes the ends of what it ends. -/
theorem Step.endedClosed (step : Step capacities state event following)
    (closed : state.EndedClosed) : following.EndedClosed := by
  cases step with
  | drain | drainEnds | drainFails | writes =>
      unfold EndedClosed
      rwa [withOutflow_process?]
  | killAlive =>
      change (state.withProcess .checker (state.checker.finish (.killed 9))).EndedClosed
      exact closed.withProcess rfl fun _ => rfl
  | seesEnd found alive | closes found alive =>
      refine closed.withProcess found fun ended => ?_
      cases ended.symm.trans alive
  | ends found => exact closed.withProcess found fun _ => rfl
  | forks =>
      intro actor process found ended
      rcases process?_of_started found with before | rfl
      · exact closed actor process before ended
      · cases ended
  | _ => exact closed

/-- In every run, whatever has ended has no end of a pipe open. -/
theorem IsRun.endedClosed (run : IsRun capacities document hasDeadline events state) :
    state.EndedClosed := by
  induction run with
  | start =>
      intro actor process found ended
      cases actor with
      | checker =>
          obtain rfl := Option.some.inj found
          cases ended
      | descendant number => cases found
  | step _ step ih => exact step.endedClosed ih

/-- The streams are over once all processes have ended. -/
theorem EndedClosed.streamsOver (closed : state.EndedClosed)
    (ended : ∀ actor process, state.process? actor = some process → process.isAlive = false) :
    state.StreamsOver capacities := by
  have unheld : ∀ stream, state.isHeld stream = false := by
    intro stream
    apply Bool.eq_false_iff.mpr
    intro held
    obtain ⟨actor, process, found, isOpen⟩ := isHeld_iff.mp held
    rw [closed actor process found (ended actor process found), Ends.has_none] at isOpen
    cases isOpen
  exact ⟨fun outlet _ => (hasWriter_eq_isHeld outlet).trans (unheld _),
    fun _ => .inr (.inl (hasReader_eq_isHeld.trans (unheld .stdin)))⟩

/-! ## The answer -/

/-- A run has timed out exactly if the watchdog has killed the checker. -/
theorem outcome_eq_timedOut_iff {ending : Ending} :
    state.outcome ending = .timedOut ↔ state.watchdog = .dismissed true := by
  unfold outcome
  split
  · next killed => exact ⟨fun _ => killed, fun _ => rfl⟩
  · next spared =>
      refine ⟨fun taken => ?_, fun killed => (spared killed).elim⟩
      split at taken
      · cases taken
      · split at taken
        · cases taken
        · split at taken <;> cases taken

end RunState

/-- A timeout is told of no other outcome, and in seconds. -/
theorem RunOutcome.result_eq_timedOut_iff {outcome : RunOutcome} {deadline : Option Nat}
    {elapsed seconds : Nat} :
    outcome.result deadline elapsed = .error (.timedOut seconds) ↔
      outcome = .timedOut ∧ seconds = deadline.getD 0 / 1000 := by
  cases outcome with
  | timedOut => simp [result, eq_comm]
  | _ => simp [result]

namespace RunState

variable {capacities : Capacities} {document : List UInt8} {hasDeadline : Bool}
  {events : List RunEvent} {state : RunState}

/-- A run that returns has timed out exactly if there was a kill in it. -/
theorem IsRun.returned_timedOut_iff (run : IsRun capacities document hasDeadline events state)
    {outcome : RunOutcome} (returned : state.stage = .returned outcome) :
    outcome = .timedOut ↔ .kill ∈ events := by
  obtain ⟨ending, -, rfl⟩ := run.reachable.isConcluded outcome returned
  rw [outcome_eq_timedOut_iff, run.killed_iff]

/-- After a kill with the streams over, the runner is bound to return a timeout: it and its helpers
have only so many steps to make, and there is always one to make until then. -/
theorem IsRun.bound_to_time_out (run : IsRun capacities document hasDeadline events state)
    (killed : .kill ∈ events) (quiet : state.StreamsOver capacities) {more : List RunEvent}
    {later : RunState}
    (happens : more.foldlM (fun state event => state.apply capacities event) state = some later) :
    more.countP RunEvent.isRunner ≤ state.remaining ∧
      (later.stage = .returned .timedOut ∨ ∃ following, OwnStep capacities later following) := by
  have longer := run.append happens
  have struck : .kill ∈ events ++ more := List.mem_append_left _ killed
  obtain ⟨quietLater, steps⟩ := quiet.steps_le happens
  refine ⟨by omega, ?_⟩
  rcases quietLater.exists_step longer.reachable.isGuarded with
    ⟨outcome, returned⟩ | ⟨-, alive⟩ | own
  · obtain rfl := (longer.returned_timedOut_iff returned).mpr struck
    exact .inl returned
  · cases (longer.killed_ended (longer.killed_iff.mpr struck)).symm.trans alive
  · exact .inr own

/-- **A timeout is a kill.** When the runner returns, it reports a timeout exactly if the
watchdog's kill has succeeded in the run, whatever else has failed; so after a kill it returns
neither an output nor the failure of a stream. A checker that ends by itself before the deadline
passes, or before the watchdog looks at it, is not killed, and its own ending stands, however
long the streams stay open. Before a kill, the watchdog has found the checker alive after the
deadline; a checker that ends by itself between the look and the kill counts as killed. And after
a kill the timeout is indeed reported: once the streams are over, as they are at the latest when
all processes have ended, the runner and its helpers have only so many steps to make, and one to
make until it has returned. -/
theorem timed_out_iff_killed (run : IsRun capacities document hasDeadline events state) :
    (∀ outcome deadline elapsed, state.stage = .returned outcome →
      (.kill ∈ events →
        outcome.result deadline elapsed = .error (.timedOut (deadline.getD 0 / 1000))) ∧
      (.kill ∉ events → ∀ seconds,
        outcome.result deadline elapsed ≠ .error (.timedOut seconds))) ∧
    (∀ before ending after, events = before ++ .ends .checker ending :: after →
      .expire ∉ before ∨ .poll ∉ before →
        .kill ∉ events ∧ state.checker.ending = some ending) ∧
    (.kill ∈ events → ∃ before after, events = before ++ .poll :: after ∧
      FoundAlive capacities document hasDeadline before after state) ∧
    (.kill ∈ events → state.StreamsOver capacities → ∀ (more : List RunEvent) (later : RunState),
      more.foldlM (fun state event => state.apply capacities event) state = some later →
        more.countP RunEvent.isRunner ≤ state.remaining ∧
        (later.stage = .returned .timedOut ∨ ∃ following, OwnStep capacities later following)) ∧
    ((∀ actor process, state.process? actor = some process → process.isAlive = false) →
      state.StreamsOver capacities) := by
  refine ⟨fun outcome deadline elapsed returned =>
      ⟨fun killed => ?_, fun spared seconds late => ?_⟩, ?_, fun killed => ?_,
    fun killed quiet _ _ happens => run.bound_to_time_out killed quiet happens,
    run.endedClosed.streamsOver⟩
  · have timedOut := (run.returned_timedOut_iff returned).mpr killed
    exact RunOutcome.result_eq_timedOut_iff.mpr ⟨timedOut, rfl⟩
  · obtain ⟨timedOut, -⟩ := RunOutcome.result_eq_timedOut_iff.mp late
    exact spared ((run.returned_timedOut_iff returned).mp timedOut)
  · rintro before ending after rfl early
    have spared := run.isSpared early
    refine ⟨fun killed => ?_, spared.ended⟩
    have unfound := spared.unfound
    rw [run.killed_iff.mpr killed] at unfound
    cases unfound
  · refine run.exists_foundAlive ?_
    rw [run.killed_iff.mpr killed]
    rfl

/-- A checker that does not read is killed after it has written a byte. The kill makes the write of
the document fail, and the answer is a timeout nonetheless. A checker that exits in time, while a
process that it has started keeps the streams open past the deadline, is not killed, and the answer
is what was written and the exit code. -/
theorem timed_out_iff_killed_not_in_time :
    (∃ (events more : List RunEvent) (killed returned : RunState),
      IsRun ⟨1, 1, 1⟩ [7] true events killed ∧ .kill ∈ events ∧ killed.StreamsOver ⟨1, 1, 1⟩ ∧
      more.foldlM (fun state event => state.apply ⟨1, 1, 1⟩ event) killed = some returned ∧
      returned.writeFailed = true ∧ returned.output.gathered = [5] ∧
      more.countP RunEvent.isRunner ≤ killed.remaining ∧
      returned.stage = .returned .timedOut ∧
      RunOutcome.timedOut.result (some 2000) 2500 = .error (.timedOut 2)) ∧
    ∃ before after returned,
      IsRun ⟨1, 1, 1⟩ [] true (before ++ .ends .checker (.exited 2) :: after) returned ∧
      .expire ∉ before ∧ .expire ∈ after ∧ .writes (.descendant 0) .output [5] ∈ after ∧
      .kill ∉ before ++ .ends .checker (.exited 2) :: after ∧
      returned.checker.ending = some (.exited 2) ∧
      returned.stage = .returned (.finished [5] (.exited 2)) ∧
      ∀ seconds, (RunOutcome.finished [5] (.exited 2)).result (some 2000) 2500 ≠
        .error (.timedOut seconds) := by
  constructor
  · let events : List RunEvent :=
      [.writes .checker .output [5], .drain .output 1, .expire, .takeLock, .poll, .kill]
    let more : List RunEvent :=
      [.sendFails, .closeInput, .drainEnds .output, .drainEnds .errors, .join .output,
        .join .errors, .cancel, .joinWatchdog, .lock, .reap]
    let killed : RunState :=
      { unsent := [7]
        output := { written := [5], gathered := [5] }
        watchdog := .dismissed true
        checker := { ends := .none, ending := some (.killed 9) } }
    let returned : RunState :=
      { killed with
        inputOpen := false
        writeFailed := true
        output := { written := [5], gathered := [5], drain := .ended }
        errors := { drain := .ended }
        stage := .returned .timedOut
        cancelled := true }
    have run : IsRun ⟨1, 1, 1⟩ [7] true events killed :=
      IsRun.start.append (show events.foldlM _ (initial [7] true) = some killed from rfl)
    have happens : more.foldlM (fun state event => state.apply ⟨1, 1, 1⟩ event) killed =
        some returned := rfl
    have struck : .kill ∈ events := by decide
    obtain ⟨-, -, -, bound, ended⟩ := timed_out_iff_killed run
    have quiet : killed.StreamsOver ⟨1, 1, 1⟩ := by
      refine ended fun actor process found => ?_
      cases actor with
      | checker =>
          obtain rfl := Option.some.inj found
          rfl
      | descendant number => cases found
    obtain ⟨answer, -⟩ := timed_out_iff_killed (run.append happens)
    exact ⟨events, more, killed, returned, run, struck, quiet, happens, rfl, rfl,
      (bound struck quiet more returned happens).1, rfl,
      (answer _ (some 2000) 2500 rfl).1 (List.mem_append_left _ struck)⟩
  · let before : List RunEvent := [.forks .checker {}]
    let after : List RunEvent :=
      [.closeInput, .expire, .takeLock, .poll, .writes (.descendant 0) .output [5],
        .drain .output 1, .ends (.descendant 0) (.exited 0), .drainEnds .output,
        .drainEnds .errors, .join .output, .join .errors, .cancel, .joinWatchdog, .lock, .reap]
    let returned : RunState :=
      { unsent := []
        inputOpen := false
        output := { written := [5], gathered := [5], drain := .ended }
        errors := { drain := .ended }
        stage := .returned (.finished [5] (.exited 2))
        cancelled := true
        watchdog := .dismissed false
        checker := { ends := .none, ending := some (.exited 2) }
        descendants := [{ ends := .none, ending := some (.exited 0) }] }
    have run : IsRun ⟨1, 1, 1⟩ [] true (before ++ .ends .checker (.exited 2) :: after) returned :=
      IsRun.start.append (show (before ++ .ends .checker (.exited 2) :: after).foldlM _
        (initial [] true) = some returned from rfl)
    have unexpired : .expire ∉ before := by decide
    obtain ⟨answer, spared, -⟩ := timed_out_iff_killed run
    obtain ⟨unkilled, ended⟩ := spared before (.exited 2) after rfl (.inl unexpired)
    exact ⟨before, after, returned, run, unexpired, by decide, by decide, unkilled, ended, rfl,
      (answer _ (some 2000) 2500 rfl).2 unkilled⟩

end RunState

end FlowCheck
