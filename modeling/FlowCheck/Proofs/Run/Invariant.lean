import FlowCheck.Proofs.Run.Transition

/-! # What holds throughout a run

Ends of pipes only ever get fewer, so a stream that has ended has nobody left to write it. The
runner joins a drain only when it is done, keeps its end of the input open only while it writes, and
comes to the lock only when the watchdog is absent or done. And the watchdog gives up without a kill
only if it was told to, or if the checker had ended.
-/

namespace FlowCheck

/-- Whether an end of a pipe is open. -/
def Ends.has (ends : Ends) : StreamName → Bool
  | .stdin => ends.input
  | .stdout => ends.output
  | .stderr => ends.errors

namespace Ends

/-- The end of an outlet is that of its stream. -/
theorem has_streamName (ends : Ends) (outlet : Outlet) :
    ends.has outlet.streamName = ends.outlet outlet := by
  cases outlet <;> rfl

@[simp] theorem has_none (stream : StreamName) : Ends.none.has stream = false := by
  cases stream <;> rfl

private theorem has_of_has_close {ends : Ends} {closed stream : StreamName}
    (left : (ends.close closed).has stream = true) : ends.has stream = true := by
  cases closed <;> cases stream <;> first | exact left | cases left

private theorem has_of_has_inter {left right : Ends} {stream : StreamName}
    (both : (left.inter right).has stream = true) : left.has stream = true := by
  cases stream <;> exact (Bool.and_eq_true_iff.mp both).1

end Ends

namespace RunnerStage

/-- Whether the runner has seen that a drain is done. -/
def hasJoined : RunnerStage → Outlet → Bool
  | writing, _ | joining .output, _ | joining .errors, .errors => false
  | _, _ => true

/-- Whether the runner has told the watchdog that it is not needed, if there is one. -/
def hasCancelled : RunnerStage → Bool
  | awaitingWatchdog | locking | waiting | returned _ => true
  | _ => false

/-- Whether the runner has seen that the watchdog is done, if there is one. -/
def isPastWatchdog : RunnerStage → Bool
  | locking | waiting | returned _ => true
  | _ => false

end RunnerStage

namespace RunState

variable {capacities : Capacities} {state following : RunState} {event : RunEvent}

/-! ## Ends of pipes -/

/-- Whether any process has its end of a stream's pipe open. -/
def isHeld (state : RunState) (stream : StreamName) : Bool :=
  state.anyProcess fun process => process.ends.has stream

/-- The document has a reader as long as some process has its end of the input open. -/
theorem hasReader_eq_isHeld : state.hasReader = state.isHeld .stdin :=
  rfl

/-- An outlet has a writer as long as some process has its end of it open. -/
theorem hasWriter_eq_isHeld (outlet : Outlet) :
    state.hasWriter outlet = state.isHeld outlet.streamName := by
  cases outlet <;> rfl

/-- An end is held by some process that has it open. -/
theorem isHeld_iff {stream : StreamName} :
    state.isHeld stream = true ↔ ∃ actor process, state.process? actor = some process ∧
      process.ends.has stream = true := by
  unfold isHeld anyProcess
  rw [Bool.or_eq_true, List.any_eq_true]
  constructor
  · rintro (checker | ⟨process, member, held⟩)
    · exact ⟨.checker, state.checker, rfl, checker⟩
    · obtain ⟨number, found⟩ := List.mem_iff_getElem?.mp member
      exact ⟨.descendant number, process, found, held⟩
  · rintro ⟨actor, process, found, held⟩
    cases actor with
    | checker =>
        obtain rfl := Option.some.inj found
        exact .inl held
    | descendant number => exact .inr ⟨process, List.mem_of_getElem? found, held⟩

/-- Whoever is there after a change of one process was there before, and had what it has now. -/
theorem isHeld_of_withProcess {actor : Actor} {process changed : ProcessState}
    {stream : StreamName} (found : state.process? actor = some process)
    (fewer : changed.ends.has stream = true → process.ends.has stream = true)
    (held : (state.withProcess actor changed).isHeld stream = true) :
    state.isHeld stream = true := by
  obtain ⟨other, holder, present, isOpen⟩ := isHeld_iff.mp held
  rw [process?_withProcess, found] at present
  split at present
  · obtain rfl := Option.some.inj present
    exact isHeld_iff.mpr ⟨actor, process, found, fewer isOpen⟩
  · exact isHeld_iff.mpr ⟨other, holder, present, isOpen⟩

/-- No step opens an end of a pipe whose other ends are closed. -/
theorem Step.isHeld (step : Step capacities state event following) {stream : StreamName}
    (held : following.isHeld stream = true) : state.isHeld stream = true := by
  cases step with
  | drain | drainEnds | drainFails | writes =>
      rw [isHeld_iff, withOutflow_process?] at held
      exact isHeld_iff.mpr held
  | killAlive =>
      change (state.withProcess .checker _).isHeld stream = true at held
      refine isHeld_of_withProcess rfl ?_ held
      rw [ProcessState.finish, Ends.has_none]
      exact fun absurd => nomatch absurd
  | seesEnd found =>
      refine isHeld_of_withProcess found ?_ held
      exact id
  | closes found => exact isHeld_of_withProcess found Ends.has_of_has_close held
  | ends found =>
      refine isHeld_of_withProcess found ?_ held
      rw [ProcessState.finish, Ends.has_none]
      exact fun absurd => nomatch absurd
  | @forks actor process ends found alive =>
      obtain ⟨other, holder, present, isOpen⟩ := isHeld_iff.mp held
      rcases process?_of_started present with before | rfl
      · exact isHeld_iff.mpr ⟨other, holder, before, isOpen⟩
      · exact isHeld_iff.mpr ⟨actor, process, found, Ends.has_of_has_inter isOpen⟩
  | _ => exact held

/-- A stream that nobody writes is not written later either. -/
theorem Step.hasWriter_eq_false (step : Step capacities state event following) {outlet : Outlet}
    (unwritten : state.hasWriter outlet = false) : following.hasWriter outlet = false := by
  rw [hasWriter_eq_isHeld] at unwritten ⊢
  exact Bool.eq_false_iff.mpr fun held => Bool.eq_false_iff.mp unwritten (step.isHeld held)

/-- A document without a reader never gets one again. -/
theorem Step.hasReader_eq_false (step : Step capacities state event following)
    (unread : state.hasReader = false) : following.hasReader = false := by
  rw [hasReader_eq_isHeld] at unread ⊢
  exact Bool.eq_false_iff.mpr fun held => Bool.eq_false_iff.mp unread (step.isHeld held)

/-! ## Drains -/

/-- A drain goes on reading or ends only when nobody can write any more, unless it fails. -/
theorem Step.drain_cases (step : Step capacities state event following) (outlet : Outlet) :
    (following.outflow outlet).drain = (state.outflow outlet).drain ∨
      (state.outflow outlet).drain = .reading ∧
        ((following.outflow outlet).drain = .ended ∧ state.hasWriter outlet = false ∨
          (following.outflow outlet).drain = .failed ∧ event = .drainFails outlet) := by
  cases step with
  | @drain other _ | @writes _ _ other =>
      rw [outflow_withOutflow]
      split
      · next same => exact .inl (by rw [same])
      · exact .inl rfl
  | @drainEnds other reading empty unwritten =>
      rw [outflow_withOutflow]
      split
      · next same =>
          subst same
          exact .inr ⟨reading, .inl ⟨rfl, unwritten⟩⟩
      · exact .inl rfl
  | @drainFails other reading =>
      rw [outflow_withOutflow]
      split
      · next same =>
          subst same
          exact .inr ⟨reading, .inr ⟨rfl, rfl⟩⟩
      · exact .inl rfl
  | seesEnd | closes | ends => exact .inl (by rw [withProcess_outflow])
  | _ => exact .inl (by cases outlet <;> rfl)

/-- What is not read any more is not read later either. -/
theorem Step.drain_ne_reading (step : Step capacities state event following) {outlet : Outlet}
    (done : (state.outflow outlet).drain ≠ .reading) :
    (following.outflow outlet).drain ≠ .reading := by
  rcases step.drain_cases outlet with same | ⟨reading, _⟩
  · rwa [same]
  · exact (done reading).elim

/-- Nobody can write a stream that has ended. -/
theorem Step.ended_unwritten (step : Step capacities state event following) {outlet : Outlet}
    (before : (state.outflow outlet).drain = .ended → state.hasWriter outlet = false)
    (ended : (following.outflow outlet).drain = .ended) : following.hasWriter outlet = false := by
  apply step.hasWriter_eq_false
  rcases step.drain_cases outlet with same | ⟨_, ⟨_, unwritten⟩ | ⟨failed, _⟩⟩
  · exact before (same ▸ ended)
  · exact unwritten
  · cases failed.symm.trans ended

/-! ## The runner -/

/-- A process that has ended does not come back. -/
theorem Step.checker_ended (step : Step capacities state event following)
    (ended : state.checker.isAlive = false) : following.checker.isAlive = false := by
  have elsewhere : ∀ {actor process changed}, state.process? actor = some process →
      process.isAlive = true → (state.withProcess actor changed).checker.isAlive = false := by
    intro actor process changed found alive
    cases actor with
    | checker =>
        obtain rfl := Option.some.inj found
        cases ended.symm.trans alive
    | descendant number => exact ended
  cases step with
  | drain | drainEnds | drainFails | writes => rwa [withOutflow_checker]
  | killAlive => rfl
  | seesEnd found alive | closes found alive | ends found alive => exact elsewhere found alive
  | _ => exact ended

/-- How the runner, its end of the input and the drains go together. -/
structure IsOrderly (state : RunState) : Prop where
  inputOpen_iff : state.inputOpen = true ↔ state.stage = .writing
  joined : ∀ outlet, state.stage.hasJoined outlet = true →
    (state.outflow outlet).drain ≠ .reading
  unwritten : ∀ outlet, (state.outflow outlet).drain = .ended → state.hasWriter outlet = false

/-- The runner leaves off writing by closing its end of the input. -/
theorem Step.inputOpen_iff (step : Step capacities state event following)
    (before : state.inputOpen = true ↔ state.stage = .writing) :
    following.inputOpen = true ↔ following.stage = .writing := by
  have shut : ∀ {stage : RunnerStage}, state.stage = stage → stage ≠ .writing →
      state.inputOpen = false := by
    intro stage there elsewhere
    exact Bool.eq_false_iff.mpr fun isOpen => elsewhere (there.symm.trans (before.mp isOpen))
  cases step with
  | closeInput => simp
  | joinOutput there | joinErrors there | joinErrorsWatched there | cancel there
  | joinWatchdog there | lock there | reap there => simp [shut there]
  | drain | drainEnds | drainFails | writes => rwa [withOutflow_inputOpen, withOutflow_stage]
  | seesEnd | closes | ends => rwa [withProcess_inputOpen, withProcess_stage]
  | _ => exact before

/-- The runner joins a drain only when it is done. -/
theorem Step.hasJoined (step : Step capacities state event following) {outlet : Outlet}
    (joined : following.stage.hasJoined outlet = true) :
    state.stage.hasJoined outlet = true ∨ (state.outflow outlet).drain ≠ .reading := by
  cases step with
  | closeInput => cases outlet <;> cases joined
  | joinOutput _ done =>
      cases outlet with
      | output => exact .inr done
      | errors => cases joined
  | joinErrors there done | joinErrorsWatched there done =>
      cases outlet with
      | output => exact .inl (by rw [there]; rfl)
      | errors => exact .inr done
  | cancel there | joinWatchdog there | lock there | reap there =>
      exact .inl (by rw [there]; rfl)
  | drain | drainEnds | drainFails | writes => exact .inl (by rwa [withOutflow_stage] at joined)
  | seesEnd | closes | ends => exact .inl (by rwa [withProcess_stage] at joined)
  | _ => exact .inl joined

/-- Every step keeps the runner, its input and the drains in order. -/
theorem Step.isOrderly (step : Step capacities state event following)
    (orderly : state.IsOrderly) : following.IsOrderly where
  inputOpen_iff := step.inputOpen_iff orderly.inputOpen_iff
  joined := by
    intro outlet joined
    apply step.drain_ne_reading
    rcases step.hasJoined joined with before | done
    · exact orderly.joined outlet before
    · exact done
  unwritten := fun outlet => step.ended_unwritten (orderly.unwritten outlet)

/-! ## The watchdog -/

/-- How the runner and the watchdog go together. -/
structure IsGuarded (state : RunState) : Prop where
  watched : state.stage = .cancelling ∨ state.stage = .awaitingWatchdog →
    state.watchdog ≠ .absent
  cancelled_iff : state.cancelled = true ↔
    state.watchdog ≠ .absent ∧ state.stage.hasCancelled = true
  settled : state.stage.isPastWatchdog = true →
    state.watchdog = .absent ∨ state.watchdog.isDone = true
  excused : state.watchdog = .dismissed false →
    state.cancelled = true ∨ state.checker.isAlive = false

/-- What leaves the runner and the watchdog as they are keeps them together. -/
theorem IsGuarded.congr (guarded : state.IsGuarded) (stage : following.stage = state.stage)
    (cancelled : following.cancelled = state.cancelled)
    (watchdog : following.watchdog = state.watchdog)
    (ended : state.checker.isAlive = false → following.checker.isAlive = false) :
    following.IsGuarded where
  watched := by
    rw [stage, watchdog]
    exact guarded.watched
  cancelled_iff := by
    rw [cancelled, watchdog, stage]
    exact guarded.cancelled_iff
  settled := by
    rw [stage, watchdog]
    exact guarded.settled
  excused := by
    rw [watchdog, cancelled]
    exact fun given => (guarded.excused given).imp_right ended

/-- Before the runner is past the watchdog, the watchdog may do its work. -/
theorem IsGuarded.unsettled (guarded : state.IsGuarded) (present : state.watchdog ≠ .absent)
    (busy : state.watchdog.isDone = false) : state.stage.isPastWatchdog = false := by
  apply Bool.eq_false_iff.mpr
  intro past
  rcases guarded.settled past with absent | done
  · exact present absent
  · cases busy.symm.trans done

/-- The watchdog goes on without the runner. -/
theorem IsGuarded.withWatchdog (guarded : state.IsGuarded) {before after : WatchdogState}
    {checker : ProcessState} (now : state.watchdog = before) (present : before ≠ .absent)
    (busy : before.isDone = false) (stays : after ≠ .absent)
    (excused : after = .dismissed false → state.cancelled = true ∨ checker.isAlive = false) :
    { state with watchdog := after, checker := checker }.IsGuarded where
  watched := fun _ => stays
  cancelled_iff := by
    rw [guarded.cancelled_iff, now]
    exact and_congr_left' ⟨fun _ => stays, fun _ => present⟩
  settled := fun past => by
    subst before
    cases (guarded.unsettled present busy).symm.trans past
  excused := excused

/-- The runner goes on without the watchdog. -/
theorem IsGuarded.withStage (guarded : state.IsGuarded) {stage : RunnerStage}
    (watched : stage = .cancelling → state.watchdog ≠ .absent)
    (elsewhere : stage ≠ .awaitingWatchdog)
    (same : state.watchdog ≠ .absent → stage.hasCancelled = state.stage.hasCancelled)
    (settled : stage.isPastWatchdog = true →
      state.watchdog = .absent ∨ state.watchdog.isDone = true) :
    { state with stage := stage }.IsGuarded where
  watched := fun there => there.elim watched fun awaiting => (elsewhere awaiting).elim
  cancelled_iff := by
    rw [guarded.cancelled_iff]
    exact and_congr_right fun present => by rw [same present]
  settled := settled
  excused := guarded.excused

/-- Every step keeps the runner and the watchdog in order. -/
theorem Step.isGuarded (step : Step capacities state event following)
    (guarded : state.IsGuarded) : following.IsGuarded := by
  have ended := step.checker_ended
  cases step with
  | send | sendFails | sendBreaks | reads | forks => exact guarded.congr rfl rfl rfl ended
  | drain | drainEnds | drainFails | writes =>
      exact guarded.congr (withOutflow_stage ..) (withOutflow_cancelled ..)
        (withOutflow_watchdog ..) ended
  | seesEnd | closes | ends =>
      exact guarded.congr (withProcess_stage ..) (withProcess_cancelled ..)
        (withProcess_watchdog ..) ended
  | closeInput there =>
      have shut : { state with inputOpen := false }.IsGuarded := guarded.congr rfl rfl rfl id
      exact shut.withStage nofun nofun
        (fun _ => (congrArg RunnerStage.hasCancelled there).symm) nofun
  | joinOutput there =>
      exact guarded.withStage nofun nofun (fun _ => by rw [there]; rfl) nofun
  | joinErrors there _ unwatched =>
      exact guarded.withStage nofun nofun (fun present => (present unwatched).elim)
        fun _ => .inl unwatched
  | joinErrorsWatched there _ watched =>
      exact guarded.withStage (fun _ => watched) nofun (fun _ => by rw [there]; rfl) nofun
  | cancel there =>
      have present := guarded.watched (.inl there)
      exact ⟨fun _ => present, ⟨fun _ => ⟨present, rfl⟩, fun _ => rfl⟩, nofun,
        fun _ => .inl rfl⟩
  | joinWatchdog there done =>
      exact guarded.withStage nofun nofun (fun _ => by rw [there]; rfl) fun _ => .inr done
  | lock there | reap there =>
      exact guarded.withStage nofun nofun (fun _ => by rw [there]; rfl)
        fun _ => guarded.settled (by rw [there]; rfl)
  | expire now | takeLock now | pollAlive now | killEnded now | killFails now | killAlive now =>
      exact guarded.withWatchdog now nofun rfl nofun nofun
  | heed now cancelled => exact guarded.withWatchdog now nofun rfl nofun fun _ => .inl cancelled
  | pollEnded now gone => exact guarded.withWatchdog now nofun rfl nofun fun _ => .inr gone

/-! ## Runs -/

variable {document : List UInt8} {hasDeadline : Bool}

private theorem initial_isOrderly : (initial document hasDeadline).IsOrderly where
  inputOpen_iff := ⟨fun _ => rfl, fun _ => rfl⟩
  joined := fun outlet joined => by cases outlet <;> cases joined
  unwritten := fun outlet ended => by cases outlet <;> cases ended

private theorem initial_isGuarded : (initial document hasDeadline).IsGuarded where
  watched := nofun
  cancelled_iff := ⟨nofun, fun ⟨_, cancelled⟩ => nomatch cancelled⟩
  settled := nofun
  excused := by cases hasDeadline <;> nofun

/-- Whatever is reached, the runner, its input and the drains are in order. -/
theorem Reachable.isOrderly (reachable : Reachable capacities document hasDeadline state) :
    state.IsOrderly := by
  induction reachable with
  | refl => exact initial_isOrderly
  | step event _ applied ih => exact (apply_eq_some_iff.mp applied).isOrderly ih

/-- Whatever is reached, the runner and the watchdog are in order. -/
theorem Reachable.isGuarded (reachable : Reachable capacities document hasDeadline state) :
    state.IsGuarded := by
  induction reachable with
  | refl => exact initial_isGuarded
  | step event _ applied ih => exact (apply_eq_some_iff.mp applied).isGuarded ih

end RunState

end FlowCheck
