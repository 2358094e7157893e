import FlowCheck.Proofs.Run.Delivery
import FlowCheck.Proofs.Run.Settling
import Mathlib.Logic.Relation

/-! # How long the deadline is in force

The runner dismisses the watchdog when both output streams are over, and only then waits for the
checker to end. A checker that has closed both streams and runs on is therefore waited for without a
deadline. That is the only way to lose the deadline while the checker runs: with the watchdog still
armed, the runner can come to such a wait by steps of its own exactly if nobody writes a stream that
is still read, and nothing holds up the rest of the document.
-/

namespace FlowCheck

/-- Whether the deadline is in force: the watchdog waits for it, is about to kill the checker, or
has tried to. -/
def WatchdogState.isOnGuard : WatchdogState → Bool
  | absent | dismissed false => false
  | _ => true

/-- Whether the deadline has passed, and the watchdog has not given up since. -/
def WatchdogState.hasFired : WatchdogState → Bool
  | absent | armed | dismissed false => false
  | _ => true

private theorem WatchdogState.isOnGuard_of_hasFired {watchdog : WatchdogState}
    (fired : watchdog.hasFired = true) : watchdog.isOnGuard = true := by
  cases watchdog with
  | dismissed killed =>
      cases killed with
      | true => rfl
      | false => cases fired
  | absent => cases fired
  | _ => rfl

namespace RunState

variable {capacities : Capacities} {document : List UInt8} {state following : RunState}
  {event : RunEvent}

/-! ## When the deadline is lost -/

private theorem Step.watchdog_present (step : Step capacities state event following)
    (present : state.watchdog ≠ .absent) : following.watchdog ≠ .absent := by
  cases step with
  | drain | drainEnds | drainFails | writes => rwa [withOutflow_watchdog]
  | seesEnd | closes | ends => rwa [withProcess_watchdog]
  | expire | heed | takeLock | pollAlive | pollEnded | killAlive | killEnded | killFails => nofun
  | _ => exact present

/-- A run with a deadline has a watchdog throughout. -/
theorem Reachable.watchdog_present (reachable : Reachable capacities document true state) :
    state.watchdog ≠ .absent := by
  induction reachable with
  | refl => nofun
  | step event _ applied ih => exact (apply_eq_some_iff.mp applied).watchdog_present ih

/-- With the checker alive, the deadline is lost only after both drains are done, and a drain that
did not fail is done only when nobody can write to it. -/
theorem Reachable.streams_done (reachable : Reachable capacities document true state)
    (alive : state.checker.isAlive = true) (lost : state.watchdog.isOnGuard = false) :
    state.cancelled = true ∧ ∀ outlet, (state.outflow outlet).drain = .failed ∨
      (state.outflow outlet).drain = .ended ∧ state.hasWriter outlet = false := by
  have orderly := reachable.isOrderly
  have guarded := reachable.isGuarded
  have dismissed : state.watchdog = .dismissed false := by
    cases watchdog : state.watchdog with
    | absent => exact (reachable.watchdog_present watchdog).elim
    | dismissed killed =>
        rw [watchdog] at lost
        cases killed with
        | true => cases lost
        | false => rfl
    | _ =>
        rw [watchdog] at lost
        cases lost
  have cancelled : state.cancelled = true := by
    rcases guarded.excused dismissed with cancelled | ended
    · exact cancelled
    · cases ended.symm.trans alive
  obtain ⟨-, late⟩ := guarded.cancelled_iff.mp cancelled
  have joined : ∀ outlet, state.stage.hasJoined outlet = true := by
    intro outlet
    cases stage : state.stage with
    | writing | joining | cancelling =>
        rw [stage] at late
        cases late
    | _ => cases outlet <;> rfl
  refine ⟨cancelled, fun outlet => ?_⟩
  cases drain : (state.outflow outlet).drain with
  | reading => exact (orderly.joined outlet (joined outlet) drain).elim
  | ended => exact .inr ⟨rfl, orderly.unwritten outlet drain⟩
  | failed => exact .inl rfl

/-- A watchdog that the deadline has woken gives up only if the checker has ended. -/
theorem Step.fired_or_ended (step : Step capacities state event following)
    (before : state.watchdog.hasFired = true ∨ state.checker.isAlive = false) :
    following.watchdog.hasFired = true ∨ following.checker.isAlive = false := by
  have ended := step.checker_ended
  cases step with
  | heed armed =>
      rw [armed] at before
      exact before.imp (fun absurd => nomatch absurd) ended
  | expire | takeLock | pollAlive | killAlive | killEnded | killFails => exact .inl rfl
  | pollEnded _ gone => exact .inr gone
  | drain | drainEnds | drainFails | writes =>
      rw [withOutflow_watchdog]
      exact before.imp_right ended
  | seesEnd | closes | ends =>
      rw [withProcess_watchdog]
      exact before.imp_right ended
  | _ => exact before.imp_right ended

/-- Once the deadline has passed, it stays in force as long as the checker runs. -/
theorem Steps.on_guard {later : RunState} (steps : Steps capacities state later)
    (fired : state.watchdog.hasFired = true) (alive : later.checker.isAlive = true) :
    later.watchdog.isOnGuard = true := by
  have kept : later.watchdog.hasFired = true ∨ later.checker.isAlive = false := by
    clear alive
    induction steps with
    | refl => exact .inl fired
    | step event _ applied ih => exact (apply_eq_some_iff.mp applied).fired_or_ended ih
  rcases kept with still | ended
  · exact WatchdogState.isOnGuard_of_hasFired still
  · cases ended.symm.trans alive

/-! ## Steps of the runner's own -/

private theorem isHeld_congr (same : following.process? = state.process?) (stream : StreamName) :
    following.isHeld stream = state.isHeld stream := by
  rw [Bool.eq_iff_iff, isHeld_iff, isHeld_iff, same]

private theorem hasWriter_congr (same : following.process? = state.process?) (outlet : Outlet) :
    following.hasWriter outlet = state.hasWriter outlet := by
  rw [hasWriter_eq_isHeld, hasWriter_eq_isHeld, isHeld_congr same]

/-- As long as the deadline does not pass, no step of the runner's own touches a process. -/
theorem Step.own (step : Step capacities state event following) (own : event.isRunner = true)
    (calm : state.watchdog = .armed ∨ state.watchdog = .dismissed false) :
    (following.watchdog = .armed ∨ following.watchdog = .dismissed false) ∧
      following.process? = state.process? := by
  cases step with
  | drain | drainEnds => rwa [withOutflow_watchdog, withOutflow_process?, and_iff_left rfl]
  | heed => exact ⟨.inr rfl, rfl⟩
  | takeLock now | pollAlive now | pollEnded now | killAlive now | killEnded now =>
      rw [now] at calm
      rcases calm with calm | calm <;> cases calm
  | sendBreaks | drainFails | expire | killFails | reads | seesEnd | writes | closes | forks
  | ends => cases own
  | _ => exact ⟨calm, rfl⟩

/-- If the streams are over after a step of the runner's own, they were over before it. -/
theorem Step.streamsOver (step : Step capacities state event following)
    (own : event.isRunner = true)
    (calm : state.watchdog = .armed ∨ state.watchdog = .dismissed false)
    (quiet : following.StreamsOver capacities) : state.StreamsOver capacities where
  unwritten := by
    intro outlet reading
    have same := hasWriter_congr (step.own own calm).2 outlet
    rcases step.drain_cases outlet with unchanged | ⟨_, ⟨_, unwritten⟩ | ⟨_, failure⟩⟩
    · rw [← same]
      exact quiet.unwritten outlet (unchanged.trans reading)
    · exact unwritten
    · rw [failure] at own
      cases own
  disposed := by
    intro writing
    cases step with
    | send _ _ _ _ pending room =>
        rcases quiet.disposed writing with failed | unread | sent | fits
        · exact .inl failed
        · exact .inr (.inl unread)
        · rw [List.drop_eq_nil_iff] at sent
          exact .inr (.inr (.inr (by omega)))
        · refine .inr (.inr (.inr ?_))
          simp only [List.length_append, List.length_take, List.length_drop] at fits
          omega
    | sendFails _ _ unread => exact .inr (.inl unread)
    | closeInput _ finished => exact finished.imp_right fun sent => .inr (.inl sent)
    | drain | drainEnds =>
        have kept := quiet.disposed ((withOutflow_stage ..).trans writing)
        rwa [withOutflow_writeFailed, withOutflow_unsent, withOutflow_inPipe, hasReader_eq_isHeld,
          isHeld_congr (withOutflow_process? ..), ← hasReader_eq_isHeld] at kept
    | joinOutput there | joinErrors there | joinErrorsWatched there | cancel there
    | joinWatchdog there | lock there | reap there => cases writing.symm.trans there
    | killAlive now =>
        rw [now] at calm
        rcases calm with calm | calm <;> cases calm
    | sendBreaks | drainFails | expire | killFails | reads | seesEnd | writes | closes | forks
    | ends => cases own
    | _ => exact quiet.disposed writing

/-- The runner comes by steps of its own to wait for a live checker without a deadline. -/
def DropsDeadline (capacities : Capacities) (state : RunState) : Prop :=
  ∃ later, Relation.ReflTransGen (OwnStep capacities) state later ∧
    later.checker.isAlive = true ∧ later.stage = .waiting ∧ later.watchdog.isOnGuard = false

/-- The streams are over wherever the runner can come by itself to such a wait. -/
theorem DropsDeadline.streamsOver (drops : state.DropsDeadline capacities)
    (reachable : Reachable capacities document true state) (armed : state.watchdog = .armed) :
    state.StreamsOver capacities := by
  obtain ⟨later, path, -, waiting, -⟩ := drops
  have arrived : ∀ hasDeadline, Reachable capacities document hasDeadline later →
      later.StreamsOver capacities := by
    intro hasDeadline there
    refine ⟨fun outlet reading => ?_, fun writing => ?_⟩
    · have joined := there.isOrderly.joined outlet (by rw [waiting]; cases outlet <;> rfl)
      exact (joined reading).elim
    · cases writing.symm.trans waiting
  have calm : state.watchdog = .armed ∨ state.watchdog = .dismissed false := .inl armed
  clear armed
  -- The induction goes backwards from the wait, where no stream is read any more.
  induction path using Relation.ReflTransGen.head_induction_on with
  | refl => exact arrived true reachable
  | head first _ ih =>
      obtain ⟨event, own, applied⟩ := first
      have step := apply_eq_some_iff.mp applied
      exact step.streamsOver own calm (ih (reachable.step event applied) (step.own own calm).1)

/-! ## How the runner comes to drop the deadline -/

private theorem DropsDeadline.of_step (drops : following.DropsDeadline capacities)
    (step : Step capacities state event following) (own : event.isRunner = true) :
    state.DropsDeadline capacities := by
  obtain ⟨later, path, rest⟩ := drops
  exact ⟨later, .head ⟨event, own, step.apply⟩ path, rest⟩

/-- Where the streams are over, the runner can come by itself to wait without a deadline. -/
theorem StreamsOver.drops (quiet : state.StreamsOver capacities)
    (reachable : Reachable capacities document true state)
    (alive : state.checker.isAlive = true) (armed : state.watchdog = .armed) :
    state.DropsDeadline capacities := by
  have calm : state.watchdog = .armed ∨ state.watchdog = .dismissed false := .inl armed
  clear armed
  induction size : state.remaining using Nat.strongRecOn generalizing state with
  | ind size ih =>
      rcases quiet.exists_step reachable.isGuarded with
        ⟨outcome, returned⟩ | ⟨waiting, -⟩ | ⟨following, event, own, applied⟩
      · obtain ⟨ending, ended, -⟩ := reachable.isConcluded outcome returned
        cases alive.symm.trans (ProcessState.isAlive_eq_false_iff.mpr ⟨ending, ended⟩)
      · have settled := reachable.isGuarded.settled (by rw [waiting]; rfl)
        refine ⟨state, .refl, alive, waiting, ?_⟩
        rcases calm with armed | dismissed
        · rw [armed] at settled
          rcases settled with absent | done
          · cases absent
          · cases done
        · rw [dismissed]
          rfl
      · have step := apply_eq_some_iff.mp applied
        have fewer := quiet.remaining_step step
        rw [own, Bool.toNat_true] at fewer
        obtain ⟨stillCalm, same⟩ := step.own own calm
        have stillAlive : following.checker.isAlive = true := by
          have checker := congrFun same .checker
          rwa [Option.some.inj checker]
        exact (ih following.remaining (by omega) (quiet.step step) (reachable.step event applied)
          stillAlive stillCalm rfl).of_step step own

/-- **When a live checker loses its deadline.** The deadline of a checker that runs is lost only
after the watchdog was told that it is not needed, and this only when each drain has failed or come
to the end of a stream that nobody can write any more. Conversely, while the watchdog is armed, the
runner can come by steps of its own to wait for the live checker without a deadline exactly if the
streams are over. Once the deadline has passed, it stays in force as long as the checker runs. -/
theorem deadline_lost_iff (reachable : Reachable capacities document true state)
    (alive : state.checker.isAlive = true) :
    (state.watchdog.isOnGuard = false → state.cancelled = true ∧ ∀ outlet,
      (state.outflow outlet).drain = .failed ∨
        (state.outflow outlet).drain = .ended ∧ state.hasWriter outlet = false) ∧
    (state.watchdog = .armed →
      (state.DropsDeadline capacities ↔ state.StreamsOver capacities)) ∧
    (state.watchdog.hasFired = true → ∀ later, Steps capacities state later →
      later.checker.isAlive = true → later.watchdog.isOnGuard = true) :=
  ⟨reachable.streams_done alive,
    fun armed =>
      ⟨fun drops => drops.streamsOver reachable armed,
        fun quiet => quiet.drops reachable alive armed⟩,
    fun fired _ steps => steps.on_guard fired⟩

/-- A checker that closes both output streams at once and runs on loses its deadline, although a
part of the document is still to be written then. -/
theorem deadline_lost_iff_after_closing :
    ∃ state, Reachable ⟨1, 1, 1⟩ [7] true state ∧ state.checker.isAlive = true ∧
      state.watchdog = .armed ∧ state.StreamsOver ⟨1, 1, 1⟩ ∧
      state.DropsDeadline ⟨1, 1, 1⟩ := by
  let closed : RunState := { initial [7] true with checker := { ends := ⟨true, false, false⟩ } }
  have run : [RunEvent.closes .checker .stdout, .closes .checker .stderr].foldlM
      (fun state event => state.apply ⟨1, 1, 1⟩ event) (initial [7] true) = some closed := rfl
  have reachable : Reachable ⟨1, 1, 1⟩ [7] true closed := Steps.refl.append run
  have quiet : closed.StreamsOver ⟨1, 1, 1⟩ :=
    ⟨fun outlet _ => by cases outlet <;> rfl, fun _ => .inr (.inr (.inr (by decide)))⟩
  exact ⟨closed, reachable, rfl, rfl, quiet,
    ((deadline_lost_iff reachable rfl).2.1 rfl).mpr quiet⟩

/-- The deadline is not in force as long as the checker runs: it closes both output streams, the
watchdog is dismissed, and the runner waits for the checker that is still alive. -/
theorem deadline_not_always_in_force :
    ¬ ∀ (capacities : Capacities) (document : List UInt8) (state : RunState),
      Reachable capacities document true state → state.checker.isAlive = true →
      (∀ outcome, state.stage ≠ .returned outcome) → state.watchdog.isOnGuard = true := by
  intro always
  let unguarded : RunState :=
    { initial [] true with
      inputOpen := false
      output := { drain := .ended }
      errors := { drain := .ended }
      stage := .waiting
      cancelled := true
      watchdog := .dismissed false
      checker := { ends := ⟨true, false, false⟩ } }
  have run : [RunEvent.closes .checker .stdout, .closes .checker .stderr, .closeInput,
      .drainEnds .output, .drainEnds .errors, .join .output, .join .errors, .cancel, .heed,
      .joinWatchdog, .lock].foldlM (fun state event => state.apply ⟨1, 1, 1⟩ event)
      (initial [] true) = some unguarded := rfl
  have reachable : Reachable ⟨1, 1, 1⟩ [] true unguarded := Steps.refl.append run
  cases always ⟨1, 1, 1⟩ [] unguarded reachable rfl nofun

end RunState

end FlowCheck
