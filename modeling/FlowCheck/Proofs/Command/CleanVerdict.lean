import FlowCheck.Proofs.Command.Preparation
import FlowCheck.Proofs.Mapping

/-! # What a clean verdict means

A failed check without diagnostics is taken for one whose issues all belong to other files, and the
command ends as if the file were in order. But diagnostics are also missing where an issue of the
file has no fragment there that can be placed. So the verdict is clean exactly if every issue of the
file has been lost in this way, and it only means what it says if none can be.
-/

namespace FlowCheck

/-! ## Lost issues -/

namespace Target

variable {target : Target} {index : LineIndex}

/-- An issue is lost: none of its fragments has a path, names the target, and can be placed. -/
def Loses (target : Target) (index : LineIndex) (issue : Issue) : Prop :=
  ∀ fragment ∈ issue.fragments, fragment.path ≠ "" →
    (fragment.path = target.path ∨ fragment.path = target.sentinel) →
      ∀ range, fragment.span.place index ≠ .ok range

/-- There are no diagnostics exactly if every issue of the target is lost. -/
theorem diagnostics_eq_nil_iff {issues : List Issue} :
    (target.diagnostics index issues).value = [] ↔
      ∀ issue ∈ issues, target.Concerns issue → target.Loses index issue := by
  rw [← sitedDiagnoses_map_snd, List.map_eq_nil_iff, List.eq_nil_iff_forall_not_mem]
  constructor
  · intro nothing issue inList concerns fragment inIssue nonempty here range placed
    obtain ⟨number, atNumber⟩ := List.getElem?_of_mem inList
    obtain ⟨place, atPlace⟩ := List.getElem?_of_mem inIssue
    have held := holds_iff.mpr ⟨nonempty, here⟩
    refine nothing ((number, place), ⟨range, issue.severity, issue.message target.sentinel⟩) ?_
    exact mem_sitedDiagnoses_iff.mpr ⟨issue, fragment, atNumber, owns_iff.mpr concerns, atPlace,
      diagnosis?_eq_some_iff.mpr ⟨held, placed, rfl, rfl⟩⟩
  · rintro lost ⟨site, diagnostic⟩ member
    obtain ⟨issue, fragment, atNumber, owned, atPlace, diagnosed⟩ :=
      mem_sitedDiagnoses_iff.mp member
    obtain ⟨held, placed, -⟩ := diagnosis?_eq_some_iff.mp diagnosed
    obtain ⟨nonempty, here⟩ := holds_iff.mp held
    exact lost issue (List.mem_of_getElem? atNumber) (owns_iff.mp owned) fragment
      (List.mem_of_getElem? atPlace) nonempty here diagnostic.range placed

/-- An issue whose first fragment has a path and can be placed is not lost. -/
theorem not_loses_of_primary {issue : Issue} {primary : Fragment} {range : TextRange}
    (isFirst : issue.fragments.head? = some primary)
    (here : primary.path = target.path ∨ primary.path = target.sentinel)
    (nonempty : primary.path ≠ "") (placed : primary.span.place index = .ok range) :
    ¬ target.Loses index issue := by
  intro lost
  exact lost primary (List.mem_of_head? isFirst) nonempty here range placed

end Target

/-! ## Checks with a verdict -/

/-- A check on a host gets as far as a verdict: the file, its project, the settings and the text are
found, the checker is run, and its output has been read. -/
structure CheckOptions.Concludes (options : CheckOptions) (host : Host)
    (launch : Launch → Except Failure Finished) (line : CommandLine) (request : Request)
    (settings : Settings) (finished : Finished) (verdict : Verdict) : Prop where
  located : options.path host.files = .ok request.path
  inProject : projectOf host.files line.project request.path = .ok request.root
  loaded : options.settings host request.root line.config = .ok settings
  isText : options.text host request.path = .ok request.text
  ran : launch (settings.launch request) = .ok finished
  decoded : Verdict.decode finished.output = .ok verdict

/-- What is said when a failed check leaves no diagnostics. -/
def elsewhereWarning : Act :=
  .warning "Flow reported errors in other files only"

namespace CheckOptions

variable {options : CheckOptions} {host : Host} {launch : Launch → Except Failure Finished}
  {line : CommandLine} {request : Request} {settings : Settings} {finished : Finished}

private theorem Concludes.resolves {verdict : Verdict}
    (concludes : options.Concludes host launch line request settings finished verdict) :
    options.Resolves host line request settings :=
  ⟨concludes.located, concludes.inProject, concludes.loaded, concludes.isText⟩

/-- A command that comes to a verdict waits for the checker and then does what presents the result. -/
theorem Concludes.run_value {verdict : Verdict}
    (concludes : options.Concludes host launch line request settings finished verdict)
    (mode : OutputMode) :
    (options.run host launch line mode).value =
      let presented := options.present mode (host.colours && !line.noColour) request.shownName
        request.text (.ok (settings.resultOf request.lineIndex request finished verdict))
      ⟨.spin s!"Checking {request.shownName}" :: presented.1, .ok presented.2⟩ := by
  rw [concludes.resolves.run_value launch mode,
    Settings.check_of_verdict concludes.ran concludes.decoded request.lineIndex]

/-- What is shown of a result: the report and details in any case, and a warning and a line about
the success where there are no diagnostics. -/
theorem present_eq (options : CheckOptions) (mode : OutputMode) (colours : Bool)
    (shown text : String) (result : CheckResult) :
    ∃ told : List Act, (∀ act ∈ told, ∃ said, act = .emit said ∨ act = .message said) ∧
      options.present mode colours shown text (.ok result) =
        if result.diagnostics = [] then
          (told ++ (if result.passed then [] else [elsewhereWarning]) ++
            (if options.format = .human then [.success s!"No errors in {shown}"] else []),
            .succeeded)
        else (told, .failed diagnosticsExit) := by
  let report : Report := ⟨shown, Document.ofString text, result.diagnostics⟩
  let rendered := report.render colours options.format
  refine ⟨(if rendered.isEmpty then [] else [.emit rendered]) ++
    (if mode.showsDetails then [.message <| s!"Flow finished in {elapsedText result.elapsed} " ++
      s!"(exit code {exitCodeText result.exitCode})"] else []), ?_, ?_⟩
  · intro act inTold
    rcases List.mem_append.mp inTold with emitted | detail
    · split at emitted
      · cases emitted
      · exact ⟨_, .inl (List.mem_singleton.mp emitted)⟩
    · split at detail
      · exact ⟨_, .inr (List.mem_singleton.mp detail)⟩
      · cases detail
  · unfold present
    simp only [List.isEmpty_iff]
    rfl

end CheckOptions

/-! ## Clean verdicts -/

/-- A command ends as if the file were in order: it succeeds, speaks of other files, and tells
people that there is nothing in this one. -/
structure CheckOptions.EndsClean (options : CheckOptions) (request : Request) (run : CommandRun) :
    Prop where
  succeeded : run.result = .ok .succeeded
  warned : elsewhereWarning ∈ run.acts
  told : options.format = .human → .success s!"No errors in {request.shownName}" ∈ run.acts

/-- A command ends with diagnostics, and says nothing about success. -/
structure EndsWithDiagnostics (run : CommandRun) : Prop where
  failed : run.result = .ok (.failed diagnosticsExit)
  unwarned : elsewhereWarning ∉ run.acts
  untold : ∀ said, .success said ∉ run.acts

/-- How a command ends whose checker found the check failed. -/
theorem CheckOptions.Concludes.ending {options : CheckOptions} {host : Host}
    {launch : Launch → Except Failure Finished} {line : CommandLine} {request : Request}
    {settings : Settings} {finished : Finished} {issues : List Issue}
    (concludes : options.Concludes host launch line request settings finished (.failed issues))
    (mode : OutputMode) :
    let run := (options.run host launch line mode).value
    let diagnostics := ((settings.target request).diagnostics request.lineIndex issues).value
    (diagnostics = [] → options.EndsClean request run) ∧
      (diagnostics ≠ [] → EndsWithDiagnostics run) := by
  obtain ⟨told, plain, presented⟩ := present_eq options mode (host.colours && !line.noColour)
    request.shownName request.text
    (settings.resultOf request.lineIndex request finished (.failed issues))
  dsimp only
  rw [concludes.run_value mode, presented]
  constructor
  · intro nothing
    rw [if_pos (show (settings.resultOf _ request finished (.failed issues)).diagnostics = [] from
      nothing)]
    refine ⟨rfl, ?_, fun human => ?_⟩
    · simp [Settings.resultOf]
    · simp [human]
  · intro something
    rw [if_neg (show (settings.resultOf _ request finished (.failed issues)).diagnostics ≠ [] from
      something)]
    have silent : ∀ act ∈ Act.spin s!"Checking {request.shownName}" :: told,
        (∀ said, act ≠ .success said) ∧ act ≠ elsewhereWarning := by
      unfold elsewhereWarning
      rw [List.forall_mem_cons]
      refine ⟨⟨nofun, nofun⟩, fun act inTold => ?_⟩
      obtain ⟨said, rfl | rfl⟩ := plain act inTold <;> exact ⟨nofun, nofun⟩
    exact ⟨rfl, fun inActs => (silent _ inActs).2 rfl,
      fun said inActs => (silent _ inActs).1 said rfl⟩

/-- **A failed check ends as a clean one exactly if every issue of the file is lost.** So it means
that no issue concerns the file as long as the first fragment of each that does has a path and a
place in the text. -/
theorem clean_verdict_iff {options : CheckOptions} {host : Host}
    {launch : Launch → Except Failure Finished} {line : CommandLine} {request : Request}
    {settings : Settings} {finished : Finished} {issues : List Issue}
    (concludes : options.Concludes host launch line request settings finished (.failed issues))
    (mode : OutputMode) :
    let run := (options.run host launch line mode).value
    let target := settings.target request
    (options.EndsClean request run ↔ ∀ issue ∈ issues, target.Concerns issue →
        target.Loses request.lineIndex issue) ∧
      (options.EndsClean request run ∨ EndsWithDiagnostics run) ∧
      ((∀ issue ∈ issues, ∀ primary, issue.fragments.head? = some primary →
          (primary.path = target.path ∨ primary.path = target.sentinel) →
            primary.path ≠ "" ∧ ∃ range, primary.span.place request.lineIndex = .ok range) →
        options.EndsClean request run → ∀ issue ∈ issues, ¬ target.Concerns issue) ∧
      ∀ index, ∃ diagnostics, (settings.check launch index request).value =
          .ok ⟨diagnostics, false, finished.exitCode, finished.elapsed⟩ ∧
        (diagnostics = [] ↔
          ∀ issue ∈ issues, target.Concerns issue → target.Loses index issue) := by
  intro run target
  obtain ⟨clean, diagnosed⟩ := concludes.ending mode
  have cleanIff : options.EndsClean request run ↔ ∀ issue ∈ issues, target.Concerns issue →
      target.Loses request.lineIndex issue := by
    rw [← Target.diagnostics_eq_nil_iff]
    refine ⟨fun ends => ?_, clean⟩
    by_contra something
    cases ends.succeeded.symm.trans (diagnosed something).failed
  refine ⟨cleanIff, ?_, ?_, fun index => ⟨_, ?_, Target.diagnostics_eq_nil_iff⟩⟩
  · exact (em _).imp clean diagnosed
  · intro placeable ends issue inList concerns
    obtain ⟨primary, isFirst, here⟩ := concerns
    obtain ⟨nonempty, range, placed⟩ := placeable issue inList primary isFirst here
    exact Target.not_loses_of_primary isFirst here nonempty placed
      (cleanIff.mp ends issue inList ⟨primary, isFirst, here⟩)
  · exact Settings.check_of_verdict concludes.ran concludes.decoded index

/-! ## An issue beyond the end -/

/-- A host with one file, an empty one. -/
def oneFileHost : Host where
  files := ⟨.directory [("p", .directory [("a.js", .file ByteArray.empty false)])], []⟩

/-- The check of that file. -/
def oneFileCheck : CheckOptions where
  file := "/p/a.js"

/-- What the check asks for. -/
def oneFileRequest : Request :=
  ⟨"", "/p/a.js", "/p"⟩

/-- A run of a checker that found something on line 99. -/
def lateRun : Finished where
  output := "\x7b\"passed\":false,\"errors\":[\x7b\"message\":[\x7b\"descr\":\"late\"," ++
    "\"path\":\"/p/a.js\",\"line\":99,\"endline\":99,\"start\":1,\"end\":1\x7d]\x7d]\x7d"
  exitCode := some 2

/-- What the checker found. -/
def lateIssue : Issue where
  fragments := [⟨"late", "/p/a.js", 99, 99, 1, 1⟩]

private theorem lateRun_concludes :
    oneFileCheck.Concludes oneFileHost (fun _ => .ok lateRun) { command := .check oneFileCheck }
      oneFileRequest {} lateRun (.failed [lateIssue]) where
  located := by decide +kernel
  inProject := by decide +kernel
  loaded := by decide +kernel
  isText := by decide +kernel
  ran := rfl
  decoded := by decide +kernel

private theorem lateIssue_undiagnosed :
    ((Settings.target {} oneFileRequest).diagnostics oneFileRequest.lineIndex [lateIssue]).value =
      [] := by
  decide +kernel

/-- The verdict on an empty file is clean although the checker found something on its line 99. -/
theorem clean_verdict_beyond_the_end :
    oneFileCheck.EndsClean oneFileRequest (oneFileCheck.run oneFileHost (fun _ => .ok lateRun)
      { command := .check oneFileCheck } .normal).value :=
  (clean_verdict_iff lateRun_concludes .normal).1.mpr
    (Target.diagnostics_eq_nil_iff.mp lateIssue_undiagnosed)

/-- A clean verdict does not always mean that no issue concerns the file. -/
theorem clean_verdict_beside_lost_issue :
    ¬ ∀ (options : CheckOptions) (host : Host) (launch : Launch → Except Failure Finished)
      (line : CommandLine) (request : Request) (settings : Settings) (finished : Finished)
      (issues : List Issue) (mode : OutputMode),
        options.Concludes host launch line request settings finished (.failed issues) →
          options.EndsClean request (options.run host launch line mode).value →
            ∀ issue ∈ issues, ¬ (settings.target request).Concerns issue := by
  intro claim
  have clean := (lateRun_concludes.ending .normal).1 lateIssue_undiagnosed
  exact claim _ _ _ _ _ _ _ _ _ lateRun_concludes clean lateIssue (List.mem_singleton.mpr rfl)
    ⟨_, rfl, .inl rfl⟩

end FlowCheck
