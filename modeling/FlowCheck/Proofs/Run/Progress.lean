import FlowCheck.Proofs.Run.Invariant

/-! # No process waits in vain

A process waits on a pipe if it wants to write more than there is room for, or to read what is not
there yet. Whatever has happened before, the runner or one of its helpers can then make the step
that ends the wait. The runner and the watchdog never come to the lock at the same time, so neither
waits there for the other.
-/

namespace FlowCheck

namespace RunState

variable {capacities : Capacities} {document : List UInt8} {hasDeadline : Bool}
  {state : RunState} {actor : Actor}

/-- A process waits to write some bytes at once: its end of the outlet is open, the stream is still
read, and there is no room for them. One byte has no room in a full pipe. -/
def IsBlockedWriting (capacities : Capacities) (state : RunState) (actor : Actor) (outlet : Outlet)
    (count : Nat) : Prop :=
  ∃ process, state.process? actor = some process ∧ process.isAlive = true ∧
    process.ends.outlet outlet = true ∧ (state.outflow outlet).drain ≠ .failed ∧
    capacities.outlet outlet < (state.outflow outlet).inPipe.length + count

/-- A process waits for input: its end is open, the pipe is empty, and the runner has not closed
it. -/
def IsBlockedReading (state : RunState) (actor : Actor) : Prop :=
  ∃ process, state.process? actor = some process ∧ process.isAlive = true ∧
    process.ends.input = true ∧ state.inPipe = [] ∧ state.inputOpen = true

/-- A process that can write has a drain that reads, unless the drain has failed. -/
theorem IsOrderly.reading (orderly : state.IsOrderly) {outlet : Outlet} {process : ProcessState}
    (found : state.process? actor = some process) (writer : process.ends.outlet outlet = true)
    (unfailed : (state.outflow outlet).drain ≠ .failed) :
    (state.outflow outlet).drain = .reading := by
  cases drain : (state.outflow outlet).drain with
  | reading => rfl
  | failed => exact (unfailed drain).elim
  | ended =>
      have held : state.isHeld outlet.streamName = true :=
        isHeld_iff.mpr ⟨actor, process, found, by rwa [Ends.has_streamName]⟩
      have unwritten := orderly.unwritten outlet drain
      rw [hasWriter_eq_isHeld, held] at unwritten
      cases unwritten

/-- Whoever waits to write can be relieved by the drain, which can empty the pipe. -/
theorem IsOrderly.relieve_writer (orderly : state.IsOrderly) {outlet : Outlet} {count : Nat}
    (fits : count ≤ capacities.outlet outlet)
    (blocked : state.IsBlockedWriting capacities actor outlet count) :
    ∃ event following, event.isRunner = true ∧ state.apply capacities event = some following ∧
      ¬ following.IsBlockedWriting capacities actor outlet count := by
  obtain ⟨process, found, -, writer, unfailed, full⟩ := blocked
  have reading := orderly.reading found writer unfailed
  have step : Step capacities state (.drain outlet (state.outflow outlet).inPipe.length) _ :=
    .drain reading (by omega) (Nat.le_refl _)
  refine ⟨_, _, rfl, step.apply, ?_⟩
  rintro ⟨_, _, _, _, _, stillFull⟩
  rw [outflow_withOutflow, if_pos rfl, List.drop_length, List.length_nil] at stillFull
  omega

/-- Whoever waits for input can be relieved by the runner, which can write on or close the pipe. -/
theorem IsOrderly.relieve_reader (orderly : state.IsOrderly) (positive : 0 < capacities.input)
    (blocked : state.IsBlockedReading actor) :
    ∃ event following, event.isRunner = true ∧ state.apply capacities event = some following ∧
      ¬ following.IsBlockedReading actor := by
  obtain ⟨process, found, -, reader, empty, isOpen⟩ := blocked
  have writing := orderly.inputOpen_iff.mp isOpen
  by_cases finished : state.writeFailed = true ∨ state.unsent = []
  · refine ⟨_, _, rfl, (Step.closeInput writing finished).apply, ?_⟩
    rintro ⟨_, _, _, _, _, stillOpen⟩
    cases stillOpen
  · obtain ⟨unfailed, pending⟩ := not_or.mp finished
    have held : state.hasReader = true :=
      hasReader_eq_isHeld.trans (isHeld_iff.mpr ⟨actor, process, found, reader⟩)
    have step : Step capacities state (.send 1) _ :=
      .send writing (Bool.eq_false_iff.mpr unfailed) held Nat.one_pos
        (List.length_pos_iff.mpr pending) (by rw [empty]; exact positive)
    refine ⟨_, _, rfl, step.apply, ?_⟩
    rintro ⟨_, _, _, _, stillEmpty, _⟩
    obtain ⟨next, rest, unsent⟩ := List.exists_cons_of_ne_nil pending
    simp [unsent] at stillEmpty

/-- As long as the runner waits for the watchdog to be done, one of them can go on. -/
theorem IsGuarded.relieve_runner (guarded : state.IsGuarded)
    (awaiting : state.stage = .awaitingWatchdog) :
    ∃ event following, event.isRunner = true ∧
      state.apply capacities event = some following := by
  have present := guarded.watched (.inr awaiting)
  cases watchdog : state.watchdog with
  | absent => exact (present watchdog).elim
  | armed =>
      have cancelled := guarded.cancelled_iff.mpr ⟨present, by rw [awaiting]; rfl⟩
      exact ⟨.heed, _, rfl, (Step.heed watchdog cancelled).apply⟩
  | expired => exact ⟨.takeLock, _, rfl, (Step.takeLock watchdog (by rw [awaiting]; rfl)).apply⟩
  | holding =>
      cases alive : state.checker.isAlive with
      | true => exact ⟨.poll, _, rfl, (Step.pollAlive watchdog alive).apply⟩
      | false => exact ⟨.poll, _, rfl, (Step.pollEnded watchdog alive).apply⟩
  | striking =>
      cases alive : state.checker.isAlive with
      | true => exact ⟨.kill, _, rfl, (Step.killAlive watchdog alive).apply⟩
      | false => exact ⟨.kill, _, rfl, (Step.killEnded watchdog alive).apply⟩
  | dismissed _ | thwarted =>
      exact ⟨.joinWatchdog, _, rfl, (Step.joinWatchdog awaiting (by rw [watchdog]; rfl)).apply⟩

/-- The lock is never wanted by one of the runner and the watchdog while the other has it. -/
theorem IsGuarded.lock_free (guarded : state.IsGuarded) :
    ¬ (state.stage = .locking ∧ state.watchdog.holdsLock = true) ∧
      ¬ (state.watchdog = .expired ∧ state.stage.holdsLock = true) ∧
      ¬ (state.stage.holdsLock = true ∧ state.watchdog.holdsLock = true) := by
  have done : state.stage.isPastWatchdog = true →
      state.watchdog ≠ .expired ∧ state.watchdog.holdsLock = false := by
    intro past
    rcases guarded.settled past with absent | done
    · rw [absent]
      exact ⟨nofun, rfl⟩
    · cases watchdog : state.watchdog with
      | dismissed _ | thwarted => exact ⟨nofun, rfl⟩
      | _ =>
          rw [watchdog] at done
          cases done
  have past : state.stage.holdsLock = true → state.stage.isPastWatchdog = true := by
    intro holds
    cases stage : state.stage with
    | waiting => rfl
    | _ =>
        rw [stage] at holds
        cases holds
  refine ⟨?_, ?_, ?_⟩
  · rintro ⟨locking, holds⟩
    cases (done (by rw [locking]; rfl)).2.symm.trans holds
  · rintro ⟨expired, holds⟩
    exact (done (past holds)).1 expired
  · rintro ⟨holds, held⟩
    cases (done (past holds)).2.symm.trans held

/-- **No process waits in vain.** Whatever the pipes hold and whatever the parties have done, for
each process that waits to write or to read there is a step of the runner or its helpers that ends
the wait. The lock is free whenever the runner or the watchdog comes to it, and while the runner
waits for the watchdog one of them can go on. -/
theorem blocked_process_relieved (positive : 0 < capacities.input)
    (reachable : Reachable capacities document hasDeadline state) :
    (∀ actor outlet count, count ≤ capacities.outlet outlet →
      state.IsBlockedWriting capacities actor outlet count →
      ∃ event following, event.isRunner = true ∧ state.apply capacities event = some following ∧
        ¬ following.IsBlockedWriting capacities actor outlet count) ∧
    (∀ actor, state.IsBlockedReading actor →
      ∃ event following, event.isRunner = true ∧ state.apply capacities event = some following ∧
        ¬ following.IsBlockedReading actor) ∧
    (state.stage = .awaitingWatchdog → ∃ event following, event.isRunner = true ∧
      state.apply capacities event = some following) ∧
    ¬ (state.stage = .locking ∧ state.watchdog.holdsLock = true) ∧
    ¬ (state.watchdog = .expired ∧ state.stage.holdsLock = true) ∧
    ¬ (state.stage.holdsLock = true ∧ state.watchdog.holdsLock = true) :=
  ⟨fun _ _ _ fits => reachable.isOrderly.relieve_writer fits,
    fun _ => reachable.isOrderly.relieve_reader positive,
    reachable.isGuarded.relieve_runner, reachable.isGuarded.lock_free⟩

/-- With pipes of one byte, a checker that writes before it reads waits on both sides at once, and
is relieved on both. -/
theorem blocked_process_relieved_on_both_sides :
    ∃ state, Reachable ⟨1, 1, 1⟩ [7] true state ∧
      state.IsBlockedWriting ⟨1, 1, 1⟩ .checker .output 1 ∧ state.IsBlockedReading .checker ∧
      (∃ event following, event.isRunner = true ∧
        state.apply ⟨1, 1, 1⟩ event = some following ∧
        ¬ following.IsBlockedWriting ⟨1, 1, 1⟩ .checker .output 1) ∧
      ∃ event following, event.isRunner = true ∧
        state.apply ⟨1, 1, 1⟩ event = some following ∧ ¬ following.IsBlockedReading .checker := by
  let full : RunState :=
    { initial [7] true with output := { written := [0], inPipe := [0] } }
  have reachable : Reachable ⟨1, 1, 1⟩ [7] true full :=
    .step (.writes .checker .output [0]) .refl rfl
  have writing : full.IsBlockedWriting ⟨1, 1, 1⟩ .checker .output 1 :=
    ⟨{}, rfl, rfl, rfl, by decide, by decide⟩
  have reading : full.IsBlockedReading .checker := ⟨{}, rfl, rfl, rfl, rfl, rfl⟩
  obtain ⟨writer, reader, -⟩ := blocked_process_relieved (by decide) reachable
  exact ⟨full, reachable, writing, reading, writer _ _ 1 (by decide) writing, reader _ reading⟩

end RunState

end FlowCheck
