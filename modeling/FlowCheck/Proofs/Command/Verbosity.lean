import FlowCheck.Proofs.Command.Outcomes
import FlowCheck.Proofs.Response.Verdict

/-! # How much is told

The mode of a command decides how much of it a terminal shows, and whether a check tells details.
Details are messages: the raw output that could not be read, or the time that the run has taken.
Apart from them a command does the same in every mode. So the report, the result, and what is said
of success and failure are the same as well; and in quiet mode a terminal shows the report and the
failures, and nothing else.
-/

namespace FlowCheck

/-! ## Details -/

/-- The message about output that could not be read. -/
def rawOutputAct (raw : String) : Act :=
  .message s!"Raw checker output:\n{raw}"

/-- The message about the run of a checker that gave a verdict. -/
def timingAct (elapsed : Nat) (exitCode : Option Nat) : Act :=
  .message <| s!"Flow finished in {CheckOptions.elapsedText elapsed} " ++
    s!"(exit code {exitCodeText exitCode})"

/-- The details that a command has to tell. Only a check that has started its checker has any: the
raw output of a run whose output is malformed, or the timing of a run with a verdict. -/
inductive CommandLine.Details (line : CommandLine) (host : Host)
    (launch : Launch → Except Failure Finished) : List Act → Prop
  | nothing : (∀ (options : CheckOptions) (request : Request) (settings : Settings),
      line.command = .check options → options.Resolves host line request settings →
        ∃ failure, Verdict.ofRun (launch (settings.launch request)) = .error failure ∧
          failure.rawOutput? = none) →
      Details line host launch []
  | rawOutput {options : CheckOptions} {request : Request} {settings : Settings}
      {reason raw : String} : line.command = .check options →
      options.Resolves host line request settings →
      Verdict.ofRun (launch (settings.launch request)) = .error (.malformedResponse reason raw) →
      (∀ finished, launch (settings.launch request) = .ok finished → raw = finished.output) →
        Details line host launch [rawOutputAct raw]
  | timing {options : CheckOptions} {request : Request} {settings : Settings}
      {finished : Finished} {verdict : Verdict} : line.command = .check options →
      options.Resolves host line request settings →
      launch (settings.launch request) = .ok finished →
      Verdict.decode finished.output = .ok verdict →
        Details line host launch [timingAct finished.elapsed finished.exitCode]

private theorem Failure.exists_malformed {failure : Failure} {raw : String}
    (kept : failure.rawOutput? = some raw) : ∃ reason, failure = .malformedResponse reason raw := by
  cases failure with
  | malformedResponse reason output =>
      obtain rfl : output = raw := Option.some.inj kept
      exact ⟨reason, rfl⟩
  | _ => cases kept

/-- What is malformed is kept as it was. -/
theorem Verdict.raw_of_decode {raw kept reason : String}
    (malformed : Verdict.decode raw = .error (.malformedResponse reason kept)) : kept = raw := by
  obtain ⟨answer, answers⟩ := Verdict.exists_answer raw
  obtain rfl := answers.decode_eq.symm.trans malformed
  cases answers with
  | shapeless | unlisted => rfl

namespace CheckOptions

/-- The details of what a check has come to. -/
def details : Except Failure CheckResult → List Act
  | .error failure => failure.rawOutput?.toList.map rawOutputAct
  | .ok result => [timingAct result.elapsed result.exitCode]

/-- What is shown of a check has a place for the details, and only they depend on the mode. -/
theorem exists_present (options : CheckOptions) (colours : Bool) (shown text : String)
    (outcome : Except Failure CheckResult) :
    ∃ before after ending, ∀ mode : OutputMode,
      options.present mode colours shown text outcome =
        (before ++ (if mode.showsDetails then details outcome else []) ++ after, ending) := by
  cases outcome with
  | error failure =>
      refine ⟨[.error s!"Flow check failed: {failure.message}"], [], .failed failureExit, ?_⟩
      intro mode
      cases kept : failure.rawOutput? with
      | none => simp [present, details, kept]
      | some raw => simp [present, details, kept, rawOutputAct]
  | ok result =>
      let rendered := Report.render ⟨shown, Document.ofString text, result.diagnostics⟩ colours
        options.format
      let elsewhere :=
        if result.passed then [] else [Act.warning "Flow reported errors in other files only"]
      let clean :=
        if options.format = .human then [Act.success s!"No errors in {shown}"] else []
      refine ⟨if rendered.isEmpty then [] else [.emit rendered],
        if result.diagnostics.isEmpty then elsewhere ++ clean else [],
        if result.diagnostics.isEmpty then .succeeded else .failed diagnosticsExit, ?_⟩
      intro mode
      unfold present details
      by_cases nothing : result.diagnostics.isEmpty
      · simp only [nothing, ↓reduceIte, List.append_assoc]
        rfl
      · simp only [nothing, Bool.false_eq_true, ↓reduceIte, List.append_nil]
        rfl

variable {options : CheckOptions} {host : Host} {line : CommandLine} {request : Request}
  {settings : Settings}

/-- What a check finds is found in one way only. -/
theorem Resolves.unique (resolves : options.Resolves host line request settings)
    {otherRequest : Request} {otherSettings : Settings}
    (others : options.Resolves host line otherRequest otherSettings) :
    otherRequest = request ∧ otherSettings = settings := by
  obtain ⟨text, path, root⟩ := request
  obtain ⟨otherText, otherPath, otherRoot⟩ := otherRequest
  obtain rfl : otherPath = path := Except.ok.inj (others.located.symm.trans resolves.located)
  obtain rfl : otherRoot = root := Except.ok.inj (others.inProject.symm.trans resolves.inProject)
  obtain rfl : otherSettings = settings := Except.ok.inj (others.loaded.symm.trans resolves.loaded)
  obtain rfl : otherText = text := Except.ok.inj (others.isText.symm.trans resolves.isText)
  exact ⟨rfl, rfl⟩

/-- What a check has come to gives the details that its run has. -/
theorem Resolves.details (resolves : options.Resolves host line request settings)
    (isCheck : line.command = .check options) (launch : Launch → Except Failure Finished) :
    line.Details host launch
      (details (settings.check launch request.lineIndex request).value) := by
  cases judged : Verdict.ofRun (launch (settings.launch request)) with
  | error failure =>
      rw [Settings.check_of_failure judged, CheckOptions.details]
      cases kept : failure.rawOutput? with
      | none =>
          apply CommandLine.Details.nothing
          intro other otherRequest otherSettings otherCheck others
          obtain rfl : options = other := Command.check.inj (isCheck.symm.trans otherCheck)
          obtain ⟨rfl, rfl⟩ := resolves.unique others
          exact ⟨failure, judged, kept⟩
      | some raw =>
          obtain ⟨reason, rfl⟩ := Failure.exists_malformed kept
          apply CommandLine.Details.rawOutput isCheck resolves judged
          intro finished ran
          rw [ran] at judged
          exact Verdict.raw_of_decode judged
  | ok verdict =>
      obtain ⟨finished, ran, decoded⟩ := Verdict.ofRun_eq_ok_iff.mp judged
      rw [Settings.check_of_verdict ran decoded]
      exact .timing isCheck resolves ran decoded

end CheckOptions

/-- A command does the same in every mode, with or without its details. -/
theorem CommandLine.exists_run (line : CommandLine) (host : Host)
    (launch : Launch → Except Failure Finished) :
    ∃ before details after result, line.Details host launch details ∧ ∀ mode : OutputMode,
      (line.run host launch mode).value =
        ⟨before ++ (if mode.showsDetails then details else []) ++ after, result⟩ := by
  have without (acts : List Act) (mode : OutputMode) :
      acts ++ (if mode.showsDetails then [] else []) ++ [] = acts := by
    simp
  unfold CommandLine.run
  cases isCommand : line.command with
  | check options =>
      by_cases resolved : ∃ request settings, options.Resolves host line request settings
      · obtain ⟨request, settings, resolves⟩ := resolved
        obtain ⟨before, after, ending, presents⟩ := options.exists_present
          (host.colours && !line.noColour) request.shownName request.text
          (settings.check launch request.lineIndex request).value
        refine ⟨.spin s!"Checking {request.shownName}" :: before, _, after, .ok ending,
          resolves.details isCommand launch, ?_⟩
        intro mode
        dsimp only
        rw [resolves.run_value launch mode, presents mode]
        rfl
      · have unresolved : ∀ request settings, ¬ options.Resolves host line request settings := by
          intro request settings resolves
          exact resolved ⟨request, settings, resolves⟩
        obtain ⟨failure, fails⟩ := CheckOptions.exists_failure_of_unresolved unresolved
        refine ⟨[], [], [], .error failure, .nothing ?_, ?_⟩
        · intro other request settings otherCheck resolves
          obtain rfl : options = other := Command.check.inj (isCommand.symm.trans otherCheck)
          exact (unresolved request settings resolves).elim
        · intro mode
          rw [without]
          exact fails launch mode
  | config json =>
      refine ⟨(line.showSettings host json).acts, [], [], (line.showSettings host json).result,
        .nothing fun _ _ _ isCheck => (nomatch isCommand.symm.trans isCheck), ?_⟩
      intro mode
      rw [without]
      rfl
  | completions shell =>
      refine ⟨shell.emit.acts, [], [], shell.emit.result,
        .nothing fun _ _ _ isCheck => (nomatch isCommand.symm.trans isCheck), ?_⟩
      intro mode
      rw [without]
      rfl

/-! ## Modes -/

/-- The kinds of acts that no detail is. -/
def untoldKinds : List (String → Act) :=
  [.success, .warning, .error, .emit, .spin]

/-- What verbose mode adds is of the kinds of its details only. -/
theorem CommandLine.Details.texts_eq_nil {line : CommandLine} {host : Host}
    {launch : Launch → Except Failure Finished} {details : List Act}
    (told : line.Details host launch details) :
    ∀ kind ∈ untoldKinds, Act.texts kind details = [] := by
  intro kind isKind
  cases told with
  | nothing => rfl
  | rawOutput =>
      simp only [untoldKinds, List.mem_cons, List.not_mem_nil, or_false] at isKind
      rcases isKind with rfl | rfl | rfl | rfl | rfl <;> rfl
  | timing =>
      simp only [untoldKinds, List.mem_cons, List.not_mem_nil, or_false] at isKind
      rcases isKind with rfl | rfl | rfl | rfl | rfl <;> rfl

/-- Of what a command shows in one mode and in another, only the messages may differ. -/
theorem CommandLine.texts_run (line : CommandLine) (host : Host)
    (launch : Launch → Except Failure Finished) (mode other : OutputMode) :
    ∀ kind ∈ untoldKinds, Act.texts kind (line.run host launch mode).value.acts =
      Act.texts kind (line.run host launch other).value.acts := by
  intro kind isKind
  obtain ⟨before, details, after, result, told, runs⟩ := line.exists_run host launch
  have silent (mode : OutputMode) :
      Act.texts kind (if mode.showsDetails then details else []) = [] := by
    split
    · exact told.texts_eq_nil kind isKind
    · rfl
  rw [runs mode, runs other]
  simp only [Act.texts_append, silent]

/-- What a command emits is emitted on its way, before a failure is shown. -/
theorem CommandRun.texts_emit_allActs (run : CommandRun) :
    Act.texts .emit run.allActs = Act.texts .emit run.acts := by
  unfold CommandRun.allActs
  cases run.result with
  | ok result => rfl
  | error failure =>
      dsimp only
      rw [Act.texts_append, Act.texts_cons_of_ne (by simp [Act.text])]
      exact List.append_nil _

/-- How much a command line wants to be shown is not looked at by its command. -/
theorem CommandLine.run_with_flags (line : CommandLine) (verbose quiet : Bool) (host : Host)
    (launch : Launch → Except Failure Finished) (mode : OutputMode) :
    ({ line with verbose, quiet } : CommandLine).run host launch mode =
      line.run host launch mode := by
  unfold CommandLine.run
  cases line.command <;> rfl

/-- What the program leaves is the exit code of the command and what it emits. -/
theorem Host.execute_of_read {host : Host} {words : List String} {line : CommandLine}
    (read : CommandLine.read host.checker words = .ok line)
    (launch : Launch → Except Failure Finished) :
    (host.execute launch words).exitCode = (line.run host launch line.mode).value.exitCode ∧
      (host.execute launch words).written.output =
        String.join (Act.texts .emit (line.run host launch line.mode).value.acts) := by
  rw [Host.execute, read]
  dsimp only
  rw [Written.output_ofActs, CommandRun.texts_emit_allActs]
  exact ⟨rfl, rfl⟩

/-- **The mode only decides whether details are told.** A command does the same in quiet and in
normal mode, and in verbose mode it has some messages more, which are details, in one place. So the
result, the report, and what is said of success, warnings and errors are the same in all modes. The
program itself has the same exit code and the same standard output for command lines that differ
only in how much is to be shown. A terminal in quiet mode shows the report as it is and the errors,
and nothing else. -/
theorem mode_only_tells_details (line : CommandLine) (host : Host)
    (launch : Launch → Except Failure Finished) :
    let run (mode : OutputMode) := (line.run host launch mode).value
    run .quiet = run .normal ∧
    (∃ before details after, line.Details host launch details ∧
      (run .normal).acts = before ++ after ∧ (run .verbose).acts = before ++ details ++ after) ∧
    (∀ mode other, (run mode).result = (run other).result ∧
      ∀ kind ∈ untoldKinds, Act.texts kind (run mode).acts = Act.texts kind (run other).acts) ∧
    (∀ words otherWords verbose quiet, CommandLine.read host.checker words = .ok line →
      CommandLine.read host.checker otherWords = .ok { line with verbose, quiet } →
        let left := host.execute launch words
        let otherLeft := host.execute launch otherWords
        left.exitCode = otherLeft.exitCode ∧ left.written.output = otherLeft.written.output) ∧
    ∀ theme acts,
      Written.ofActs theme .quiet acts = ⟨String.join (Act.texts .emit acts),
        String.join ((Act.texts .error acts).map fun text => s!"{theme.errorLine text}\n")⟩ ∧
      ∀ act ∈ acts, ∀ onTerminal, act.spinner? .quiet onTerminal = none := by
  intro run
  obtain ⟨before, details, after, result, told, runs⟩ := line.exists_run host launch
  refine ⟨?_, ⟨before, details, after, told, ?_, ?_⟩, ?_, ?_, ?_⟩
  · exact (runs .quiet).trans (runs .normal).symm
  · change (line.run host launch .normal).value.acts = _
    rw [runs .normal]
    simp [OutputMode.showsDetails]
  · change (line.run host launch .verbose).value.acts = _
    rw [runs .verbose]
    simp [OutputMode.showsDetails]
  · intro mode other
    constructor
    · change (line.run host launch mode).value.result = (line.run host launch other).value.result
      rw [runs mode, runs other]
    · exact line.texts_run host launch mode other
  · intro words otherWords verbose quiet read otherRead
    obtain ⟨exits, writes⟩ := Host.execute_of_read read launch
    obtain ⟨otherExits, otherWrites⟩ := Host.execute_of_read otherRead launch
    rw [line.run_with_flags] at otherExits otherWrites
    dsimp only
    rw [exits, writes, otherExits, otherWrites]
    constructor
    · rw [CommandRun.exitCode, CommandRun.exitCode, runs, runs]
    · rw [line.texts_run host launch line.mode _ .emit (by simp [untoldKinds])]
  · intro theme acts
    refine ⟨Written.ofActs_quiet theme acts, ?_⟩
    intro act _ onTerminal
    cases act <;> rfl

/-- A check of a file with one issue, and the same check in quiet and in verbose mode. -/
theorem mode_only_tells_details_on_one_file :
    let line : CommandLine := { command := .check oneFileCheck }
    let launch : Launch → Except Failure Finished := fun _ => .ok earlyRun
    let usual := oneFileHost.execute launch ["check", "/p/a.js"]
    let quiet := oneFileHost.execute launch ["check", "--quiet", "/p/a.js"]
    let verbose := oneFileHost.execute launch ["--verbose", "check", "/p/a.js"]
    CommandLine.read oneFileHost.checker ["check", "/p/a.js"] = .ok line ∧
      CommandLine.read oneFileHost.checker ["check", "--quiet", "/p/a.js"] =
        .ok { line with verbose := false, quiet := true } ∧
      CommandLine.read oneFileHost.checker ["--verbose", "check", "/p/a.js"] =
        .ok { line with verbose := true, quiet := false } ∧
      (usual.exitCode = quiet.exitCode ∧ usual.written.output = quiet.written.output) ∧
      (usual.exitCode = verbose.exitCode ∧ usual.written.output = verbose.written.output) := by
  intro line launch usual quiet verbose
  obtain ⟨-, -, -, alike, -⟩ := mode_only_tells_details line oneFileHost launch
  have read : CommandLine.read oneFileHost.checker ["check", "/p/a.js"] = .ok line := by
    decide +kernel
  have quietRead : CommandLine.read oneFileHost.checker ["check", "--quiet", "/p/a.js"] =
      .ok { line with verbose := false, quiet := true } := by
    decide +kernel
  have verboseRead : CommandLine.read oneFileHost.checker ["--verbose", "check", "/p/a.js"] =
      .ok { line with verbose := true, quiet := false } := by
    decide +kernel
  exact ⟨read, quietRead, verboseRead, alike _ _ _ _ read quietRead, alike _ _ _ _ read verboseRead⟩

end FlowCheck
