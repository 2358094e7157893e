import FlowCheck.Command.Dispatch
import FlowCheck.Proofs.Command.CleanVerdict
import FlowCheck.Proofs.Report.ReadBack
import FlowCheck.Proofs.Run.Delivery
import FlowCheck.Proofs.Ui.Terminal
import Mathlib.Tactic.Common

/-! # What the end of a check tells

A check ends in one of three ways, told apart by the exit code alone: its checker gave no verdict,
the verdict left diagnostics in the file, or it left none. People see a report if there is something
to report, and tools get one whenever there was a verdict. Nothing else that the checker did, such
as how it exited or what it wrote besides its output, makes a difference.
-/

namespace FlowCheck

/-! ## What is shown -/

/-- A report for people is empty exactly if there is nothing to report. -/
theorem Report.human_eq_empty_iff {report : Report} {colours : Bool} :
    report.human colours = "" ↔ report.diagnostics = [] := by
  rw [human, String.ofList_eq_empty_iff, List.append_eq_nil_iff, List.flatMap_eq_nil_iff]
  constructor
  · rintro ⟨empty, -⟩
    refine List.eq_nil_iff_forall_not_mem.mpr fun diagnostic inside => ?_
    have nothing := empty diagnostic inside
    simp [entry] at nothing
  · intro nothing
    simp [nothing, totals, count]

/-- A report in JSON says something. -/
theorem Report.json_ne_empty (report : Report) : report.json ≠ "" := by
  simp [json]

/-- Whether anything is written of a report: tools always get one. -/
theorem Report.render_eq_empty_iff {report : Report} {colours : Bool} {format : ReportFormat} :
    report.render colours format = "" ↔ format = .human ∧ report.diagnostics = [] := by
  cases format with
  | human => simpa [render] using human_eq_empty_iff
  | json => simpa [render] using json_ne_empty report

namespace CheckOptions

variable {options : CheckOptions} {mode : OutputMode} {colours : Bool} {shown text : String}
  {result : CheckResult} {failure : Failure}

/-- A result succeeds exactly if it has no diagnostics. -/
theorem present_result :
    (options.present mode colours shown text (.ok result)).2 =
      if result.diagnostics = [] then .succeeded else .failed diagnosticsExit := by
  unfold present
  simp only [List.isEmpty_iff]
  split <;> rfl

/-- Of the acts about a result only the report itself is emitted. -/
theorem texts_emit_present :
    Act.texts .emit (options.present mode colours shown text (.ok result)).1 =
      let rendered := Report.render ⟨shown, Document.ofString text, result.diagnostics⟩ colours
        options.format
      if rendered = "" then [] else [rendered] := by
  unfold present
  simp only [String.isEmpty_iff, List.isEmpty_iff]
  have details : ∀ said : String,
      Act.texts .emit (if mode.showsDetails then [.message said] else []) = [] := by
    intro said
    split <;> rfl
  have elsewhere : ∀ said : String,
      Act.texts .emit (if result.passed then [] else [.warning said]) = [] := by
    intro said
    split <;> rfl
  have clean : ∀ said : String,
      Act.texts .emit (if options.format = .human then [.success said] else []) = [] := by
    intro said
    split <;> rfl
  have report : ∀ rendered : String, Act.texts .emit
      (if rendered = "" then [] else [.emit rendered]) =
        if rendered = "" then [] else [rendered] := by
    intro rendered
    split
    · rfl
    · exact Act.texts_cons_of_eq rfl []
  split <;> simp only [Act.texts_append, details, elsewhere, clean, report, List.append_nil]

end CheckOptions

/-! ## Endings -/

/-- A command ends without a verdict: it fails, says so once, and neither reports anything nor
speaks of success or of something to be careful about. -/
structure EndsUnjudged (run : CommandRun) : Prop where
  failed : run.result = .ok (.failed failureExit)
  unreported : Act.texts .emit run.acts = []
  toldOnce : (Act.texts .error run.acts).length = 1
  noSuccess : Act.texts .success run.acts = []
  noWarning : Act.texts .warning run.acts = []

/-- The diagnostics that a verdict leaves in the text of a request. -/
def Settings.mapped (settings : Settings) (request : Request) (verdict : Verdict) :
    List Diagnostic :=
  ((settings.target request).diagnostics request.lineIndex verdict.issues).value

/-- The report on what a verdict leaves is read back from its text. -/
theorem Settings.report_isReadFrom {settings : Settings} {request : Request} {verdict : Verdict} :
    let report := Report.mk request.shownName (Document.ofString request.text)
      (settings.mapped request verdict)
    report.IsReadFrom report.json := by
  intro report
  obtain ⟨tree, -, isTree, told⟩ := report.exists_tree
  refine ⟨tree, _, isTree, told, Report.toldReport_isOf ?_⟩
  intro diagnostic member
  exact Target.within_of_mem member

namespace CheckOptions

variable {options : CheckOptions} {host : Host} {line : CommandLine} {request : Request}
  {settings : Settings} {judged : Except Failure Verdict}

/-- The end of a command tells what was made of a file: no verdict, a verdict that leaves
diagnostics, or one that leaves none. The report for tools is read back as these diagnostics. -/
structure TellsApart (options : CheckOptions) (request : Request) (settings : Settings)
    (judged : Except Failure Verdict) (run : CommandRun) : Prop where
  unjudged : EndsUnjudged run ↔ ∃ failure, judged = .error failure
  diagnosed : run.result = .ok (.failed diagnosticsExit) ↔
    ∃ verdict, judged = .ok verdict ∧ settings.mapped request verdict ≠ []
  clean : run.result = .ok .succeeded ↔
    ∃ verdict, judged = .ok verdict ∧ settings.mapped request verdict = []
  forPeople : options.format = .human →
    (Act.texts .emit run.acts ≠ [] ↔ run.exitCode = diagnosticsExit) ∧
      "" ∉ Act.texts .emit run.acts
  forTools : options.format = .json →
    (run.exitCode = 0 ∨ run.exitCode = diagnosticsExit ↔
      ∃ verdict, judged = .ok verdict ∧
        let report := Report.mk request.shownName (Document.ofString request.text)
          (settings.mapped request verdict)
        Act.texts .emit run.acts = [report.json] ∧ report.IsReadFrom report.json)

/-- What is shown of a failure is one line about it, and the raw output where details are told. -/
theorem present_failure (options : CheckOptions) (mode : OutputMode) (colours : Bool)
    (shown text : String) (failure : Failure) :
    ∃ told raw, (raw = [] ∨ ∃ output, raw = [.message output]) ∧
      options.present mode colours shown text (.error failure) =
        (.error told :: raw, .failed failureExit) := by
  refine ⟨_, _, ?_, rfl⟩
  cases failure.rawOutput? with
  | none => exact .inl rfl
  | some output =>
      dsimp only
      split
      · exact .inr ⟨_, rfl⟩
      · exact .inl rfl

/-- A check whose run comes to no verdict. -/
theorem Resolves.endsUnjudged (resolves : options.Resolves host line request settings)
    {launch : Launch → Except Failure Finished} {failure : Failure}
    (unjudged : Verdict.ofRun (launch (settings.launch request)) = .error failure)
    (mode : OutputMode) : EndsUnjudged (options.run host launch line mode).value := by
  obtain ⟨told, raw, plain, presented⟩ := options.present_failure mode
    (host.colours && !line.noColour) request.shownName request.text failure
  rw [resolves.run_value, Settings.check_of_failure unjudged]
  dsimp only
  rw [presented]
  have toldOnce : Act.texts .error (.error told :: raw) = [told] := by
    rw [Act.texts_cons_of_eq rfl]
    rcases plain with rfl | ⟨output, rfl⟩ <;> rfl
  constructor
  case toldOnce => exact congrArg List.length toldOnce
  all_goals rcases plain with rfl | ⟨output, rfl⟩ <;> rfl

/-- A check whose run comes to a verdict ends as the diagnostics say that the verdict leaves, and
emits the report on them if there is anything in it. -/
theorem Resolves.ends_of_verdict (resolves : options.Resolves host line request settings)
    {launch : Launch → Except Failure Finished} {verdict : Verdict}
    (judged : Verdict.ofRun (launch (settings.launch request)) = .ok verdict)
    (mode : OutputMode) :
    let run := (options.run host launch line mode).value
    let mapped := settings.mapped request verdict
    let rendered := (Report.mk request.shownName (Document.ofString request.text) mapped).render
      (host.colours && !line.noColour) options.format
    run.result = .ok (if mapped = [] then .succeeded else .failed diagnosticsExit) ∧
      Act.texts .emit run.acts = if rendered = "" then [] else [rendered] := by
  obtain ⟨finished, ran, decoded⟩ := Verdict.ofRun_eq_ok_iff.mp judged
  dsimp only
  rw [resolves.run_value, Settings.check_of_verdict ran decoded]
  exact ⟨congrArg Except.ok present_result, texts_emit_present⟩

/-- Of a run of the checker, the end of a check and the report depend on the verdict alone. -/
theorem Resolves.ends_alike (resolves : options.Resolves host line request settings)
    {launch otherLaunch : Launch → Except Failure Finished}
    (same : Verdict.ofRun (launch (settings.launch request)) =
      Verdict.ofRun (otherLaunch (settings.launch request))) (mode : OutputMode) :
    let run := (options.run host launch line mode).value
    let otherRun := (options.run host otherLaunch line mode).value
    run.result = otherRun.result ∧ Act.texts .emit run.acts = Act.texts .emit otherRun.acts := by
  cases judged : Verdict.ofRun (launch (settings.launch request)) with
  | error failure =>
      have ends := resolves.endsUnjudged judged mode
      have otherEnds := resolves.endsUnjudged (same.symm.trans judged) mode
      exact ⟨ends.failed.trans otherEnds.failed.symm,
        ends.unreported.trans otherEnds.unreported.symm⟩
  | ok verdict =>
      obtain ⟨result, emitted⟩ := resolves.ends_of_verdict judged mode
      obtain ⟨otherResult, otherEmitted⟩ := resolves.ends_of_verdict (same.symm.trans judged) mode
      exact ⟨result.trans otherResult.symm, emitted.trans otherEmitted.symm⟩

/-- A command whose file and settings are found tells the outcomes of its run apart. -/
theorem Resolves.tellsApart (resolves : options.Resolves host line request settings)
    (launch : Launch → Except Failure Finished) (mode : OutputMode) :
    options.TellsApart request settings (Verdict.ofRun (launch (settings.launch request)))
      (options.run host launch line mode).value := by
  cases judged : Verdict.ofRun (launch (settings.launch request)) with
  | error failure =>
      have ends := resolves.endsUnjudged judged mode
      have exits : (options.run host launch line mode).value.exitCode = failureExit := by
        rw [CommandRun.exitCode, ends.failed]
        rfl
      constructor
      case unjudged => simpa using ends
      case diagnosed =>
        rw [ends.failed]
        simp [CommandResult.failed, failureExit, diagnosticsExit]
      case clean =>
        rw [ends.failed]
        simp [CommandResult.failed, CommandResult.succeeded]
      case forPeople =>
        intro _
        rw [ends.unreported, exits]
        simp [failureExit, diagnosticsExit]
      case forTools =>
        intro _
        rw [exits]
        simp [failureExit, diagnosticsExit]
  | ok verdict =>
      obtain ⟨result, emitted⟩ := resolves.ends_of_verdict judged mode
      have exits : (options.run host launch line mode).value.exitCode =
          if settings.mapped request verdict = [] then 0 else diagnosticsExit := by
        rw [CommandRun.exitCode, result]
        dsimp only
        split <;> rfl
      constructor
      case unjudged =>
        refine ⟨fun ends => ?_, nofun⟩
        have failed := result.symm.trans ends.failed
        split at failed <;> cases failed
      case diagnosed =>
        rw [result]
        split <;> simp_all [CommandResult.failed, CommandResult.succeeded]
      case clean =>
        rw [result]
        split <;> simp_all [CommandResult.failed, CommandResult.succeeded]
      case forPeople =>
        -- For people the report is empty in the clean case, and then it is not emitted at all.
        intro human
        rw [emitted, exits]
        by_cases nothing : settings.mapped request verdict = []
        · rw [if_pos (Report.render_eq_empty_iff.mpr ⟨human, nothing⟩), if_pos nothing]
          simp [diagnosticsExit]
        · have told : (Report.mk request.shownName (Document.ofString request.text)
              (settings.mapped request verdict)).render (host.colours && !line.noColour)
                options.format ≠ "" :=
            fun empty => nothing (Report.render_eq_empty_iff.mp empty).2
          rw [if_neg told, if_neg nothing]
          simpa using told.symm
      case forTools =>
        intro json
        rw [emitted, exits, json, Report.render, if_neg (Report.json_ne_empty _)]
        refine iff_of_true ?_ ⟨verdict, rfl, rfl, Settings.report_isReadFrom⟩
        split
        · exact .inl rfl
        · exact .inr rfl

end CheckOptions

/-! ## What a run leaves -/

/-- A launch comes to its end in a run in which these bytes are written to the output. What is
written to the errors is open, as are the exit, the pipes, the deadline and the order of events. -/
def Finished.ComesOf (finished : Finished) (output : List UInt8) : Prop :=
  ∃ capacities document hasDeadline events state outcome deadline elapsed,
    RunState.IsRun capacities document hasDeadline events state ∧
      state.stage = .returned outcome ∧ outcome.result deadline elapsed = .ok finished ∧
      events.flatMap (RunEvent.bytesFor .output) = output

/-- Two launches have left the same output, as texts or as bytes. -/
inductive Finished.OutputAgrees (finished other : Finished) : Prop
  | texts : finished.output = other.output → OutputAgrees finished other
  | bytes {output : List UInt8} : finished.ComesOf output → other.ComesOf output →
      OutputAgrees finished other

/-- All that was written to the output is what a launch leaves of it. -/
theorem Finished.ComesOf.output_eq {finished : Finished} {output : List UInt8}
    (comes : finished.ComesOf output) : finished.output = Text.ofBytes output := by
  obtain ⟨_, _, _, events, state, _, _, _, run, returned, result, rfl⟩ := comes
  have reachable := run.reachable
  obtain ⟨ending, -, rfl⟩ := reachable.isConcluded _ returned
  cases taken : state.outcome ending with
  | timedOut | inputFailed | drainFailed =>
      rw [taken] at result
      cases result
  | finished gathered last =>
      rw [taken] at result
      obtain rfl := Except.ok.inj result
      obtain ⟨unfailed, rfl, -⟩ := RunState.outcome_eq_finished taken
      have drained : RunState.IsDrained (state.outflow .output) := reachable.isDrained
      have empty := drained.emptied (reachable.isOrderly.drain_done returned (unfailed _))
      have whole := drained.whole.trans run.written
      rw [empty, List.append_nil] at whole
      exact congrArg Text.ofBytes whole

/-- The output that all readers of a text agree on is the same for both runs. -/
theorem Finished.OutputAgrees.output_eq {finished other : Finished}
    (agrees : finished.OutputAgrees other) : finished.output = other.output := by
  cases agrees with
  | texts same => exact same
  | bytes comes others => rw [comes.output_eq, others.output_eq]

/-! ## The three endings -/

/-- **A check tells its three endings apart.** A check that does not find all it needs fails before
it has shown anything. Any other ends as one without a verdict, one with diagnostics or one without,
whatever the run of the checker; and it ends alike, and emits the same, for runs that have left the
same output. The exit code of the program is that of the check. -/
theorem check_tells_apart (options : CheckOptions) (host : Host)
    (launch : Launch → Except Failure Finished) (line : CommandLine) (mode : OutputMode) :
    let run := (options.run host launch line mode).value
    ((∀ request settings, ¬ options.Resolves host line request settings) →
      run.acts = [] ∧ (∃ failure, run.result = .error failure) ∧ run.exitCode = failureExit) ∧
    (∀ request settings, options.Resolves host line request settings →
      options.TellsApart request settings (Verdict.ofRun (launch (settings.launch request))) run ∧
      ∀ otherLaunch finished other, launch (settings.launch request) = .ok finished →
        otherLaunch (settings.launch request) = .ok other → finished.OutputAgrees other →
          let otherRun := (options.run host otherLaunch line mode).value
          run.result = otherRun.result ∧
            Act.texts .emit run.acts = Act.texts .emit otherRun.acts) ∧
    ∀ words, CommandLine.read host.checker words = .ok line → line.command = .check options →
      (host.execute launch words).exitCode =
        (options.run host launch line line.mode).value.exitCode := by
  dsimp only
  refine ⟨fun unresolved => ?_, fun request settings resolves => ⟨?_, ?_⟩, ?_⟩
  · obtain ⟨failure, failed⟩ := CheckOptions.run_of_unresolved unresolved launch mode
    rw [failed]
    exact ⟨rfl, ⟨failure, rfl⟩, rfl⟩
  · exact resolves.tellsApart launch mode
  · intro otherLaunch finished other ran otherRan agrees
    refine resolves.ends_alike ?_ mode
    rw [ran, otherRan]
    exact congrArg Verdict.decode agrees.output_eq
  · intro words read isCheck
    rw [Host.execute, read]
    dsimp only
    rw [CommandLine.run, isCheck]

/-- A run of a checker that found something at the beginning of line 1. -/
def earlyRun : Finished where
  output := "\x7b\"passed\":false,\"errors\":[\x7b\"message\":[\x7b\"descr\":\"early\"," ++
    "\"path\":\"/p/a.js\",\"line\":1,\"endline\":1,\"start\":1,\"end\":0\x7d]\x7d]\x7d"
  exitCode := some 2

private theorem oneFileCheck_resolves : oneFileCheck.Resolves oneFileHost
    { command := .check oneFileCheck } oneFileRequest {} where
  located := by decide +kernel
  inProject := by decide +kernel
  loaded := by decide +kernel
  isText := by decide +kernel

/-- One issue in the file makes exit code 1 and a report, however the checker exits. The check of a
file that is missing shows nothing and makes exit code 2. -/
theorem check_tells_apart_on_one_file :
    let line : CommandLine := { command := .check oneFileCheck }
    let missing : CheckOptions := { file := "/p/b.js" }
    let run := (oneFileCheck.run oneFileHost (fun _ => .ok earlyRun) line .normal).value
    run.result = .ok (.failed diagnosticsExit) ∧ Act.texts .emit run.acts ≠ [] ∧
      (oneFileCheck.run oneFileHost (fun _ => .ok { earlyRun with exitCode := none }) line
        .normal).value.result = run.result ∧
      (oneFileHost.execute (fun _ => .ok earlyRun) ["check", "/p/a.js"]).exitCode =
        diagnosticsExit ∧
      (missing.run oneFileHost (fun _ => .ok earlyRun) line .normal).value.acts = [] := by
  intro line missing run
  have read : CommandLine.read oneFileHost.checker ["check", "/p/a.js"] = .ok line := by
    decide +kernel
  have mapped : ∃ verdict, Verdict.ofRun (.ok earlyRun) = .ok verdict ∧
      Settings.mapped {} oneFileRequest verdict ≠ [] := by
    have decoded : Verdict.decode earlyRun.output =
        .ok (.failed [⟨[⟨"early", "/p/a.js", 1, 1, 1, 0⟩], none, none⟩]) := by decide +kernel
    exact ⟨_, Verdict.ofRun_eq_ok_iff.mpr ⟨_, rfl, decoded⟩, by decide +kernel⟩
  have unresolved : ∀ request settings, ¬ missing.Resolves oneFileHost line request settings := by
    intro request settings others
    have absent : missing.path oneFileHost.files = .error (.system .notFound) := by decide +kernel
    cases absent.symm.trans others.located
  obtain ⟨-, found, program⟩ :=
    check_tells_apart oneFileCheck oneFileHost (fun _ => .ok earlyRun) line .normal
  obtain ⟨tells, alike⟩ := found _ _ oneFileCheck_resolves
  have diagnosed := tells.diagnosed.mpr mapped
  have exits : run.exitCode = diagnosticsExit := by
    rw [CommandRun.exitCode, diagnosed]
    rfl
  refine ⟨diagnosed, (tells.forPeople rfl).1.mpr exits, ?_, ?_, ?_⟩
  · exact (alike (fun _ => .ok { earlyRun with exitCode := none }) _ _ rfl rfl (.texts rfl)).1.symm
  · exact (program _ read rfl).trans exits
  · exact ((check_tells_apart missing oneFileHost (fun _ => .ok earlyRun) line .normal).1
      unresolved).1

end FlowCheck
