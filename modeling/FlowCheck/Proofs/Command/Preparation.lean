import FlowCheck.Command.Check

/-! # What a check needs

A check needs its file, the project of the file, the settings and the text, and looks for them in
this order. If one of them is missing, the command fails with the reason and has shown nothing. If
it has all of them, it runs the checker and shows what the run has come to.
-/

namespace FlowCheck

/-! ## Runs and their verdicts -/

/-- Reading a response gives what decoding it gives. -/
theorem Verdict.read_value (raw : String) : (Verdict.read raw).value = Verdict.decode raw := by
  unfold Verdict.read
  split
  · next malformed => exact malformed.symm
  · rfl

/-- The verdict of a run. There is none if the run failed, or if its output cannot be read. -/
def Verdict.ofRun (run : Except Failure Finished) : Except Failure Verdict :=
  run.bind fun finished => Verdict.decode finished.output

/-- A run comes to a verdict exactly if it finishes with an output that is one. -/
theorem Verdict.ofRun_eq_ok_iff {run : Except Failure Finished} {verdict : Verdict} :
    Verdict.ofRun run = .ok verdict ↔
      ∃ finished, run = .ok finished ∧ Verdict.decode finished.output = .ok verdict := by
  cases run with
  | error failure => simp [Verdict.ofRun, Except.bind]
  | ok finished => simp [Verdict.ofRun, Except.bind]

/-- The result of a check whose checker gave a verdict. -/
def Settings.resultOf (settings : Settings) (index : LineIndex) (request : Request)
    (finished : Finished) (verdict : Verdict) : CheckResult :=
  ⟨((settings.target request).diagnostics index verdict.issues).value, verdict = .passed,
    finished.exitCode, finished.elapsed⟩

section Check

variable {settings : Settings} {launch : Launch → Except Failure Finished} {request : Request}
  {finished : Finished} {verdict : Verdict} {failure : Failure}

/-- A check runs the checker and maps what its response says. -/
theorem Settings.check_value (settings : Settings) (launch : Launch → Except Failure Finished)
    (index : LineIndex) (request : Request) :
    (settings.check launch index request).value =
      (launch (settings.launch request)).bind fun finished =>
        (Verdict.decode finished.output).map (settings.resultOf index request finished) := by
  unfold Settings.check Settings.conclude
  cases launch (settings.launch request) with
  | error failure => rfl
  | ok finished =>
      simp only [Except.bind]
      rw [← Verdict.read_value]
      rcases Verdict.read finished.output with ⟨failure | verdict, events⟩ <;> rfl

/-- A check whose run comes to a verdict gives the result of it. -/
theorem Settings.check_of_verdict (ran : launch (settings.launch request) = .ok finished)
    (decoded : Verdict.decode finished.output = .ok verdict) (index : LineIndex) :
    (settings.check launch index request).value =
      .ok (settings.resultOf index request finished verdict) := by
  rw [Settings.check_value, ran, Except.bind, decoded]
  rfl

/-- A check fails as its run does, or as the reading of the output. -/
theorem Settings.check_of_failure
    (unjudged : Verdict.ofRun (launch (settings.launch request)) = .error failure)
    (index : LineIndex) : (settings.check launch index request).value = .error failure := by
  rw [Settings.check_value]
  cases ran : launch (settings.launch request) with
  | error cause =>
      rw [ran] at unjudged
      exact congrArg _ (Except.error.inj unjudged)
  | ok finished =>
      rw [ran] at unjudged
      change Verdict.decode finished.output = .error failure at unjudged
      rw [Except.bind, unjudged]
      rfl

end Check

/-! ## Preparing a check -/

/-- The name by which a file is shown: its path in the project. -/
def Request.shownName (request : Request) : String :=
  (Path.below? request.root request.path).getD request.path

namespace CheckOptions

variable {options : CheckOptions} {host : Host} {line : CommandLine} {request : Request}
  {settings : Settings}

/-- A check on a host finds its file, the file's project, the settings and the text. -/
structure Resolves (options : CheckOptions) (host : Host) (line : CommandLine) (request : Request)
    (settings : Settings) : Prop where
  located : options.path host.files = .ok request.path
  inProject : projectOf host.files line.project request.path = .ok request.root
  loaded : options.settings host request.root line.config = .ok settings
  isText : options.text host request.path = .ok request.text

/-- What is shown of a check that has found all it needs, and how the command ends. -/
theorem Resolves.run_value (resolves : options.Resolves host line request settings)
    (launch : Launch → Except Failure Finished) (mode : OutputMode) :
    (options.run host launch line mode).value =
      let presented := options.present mode (host.colours && !line.noColour) request.shownName
        request.text (settings.check launch request.lineIndex request).value
      ⟨.spin s!"Checking {request.shownName}" :: presented.1, .ok presented.2⟩ := by
  -- The command is two searches, each of which ends well, and a check.
  have found : (do
      let path ← options.path host.files
      return (path, ← projectOf host.files line.project path)) =
        Except.ok (request.path, request.root) := by
    rw [resolves.located]
    change (projectOf host.files line.project request.path).bind _ = _
    rw [resolves.inProject]
    rfl
  have prepared : (do
      let settings ← options.settings host request.root line.config
      return (settings, ← options.text host request.path)) =
        Except.ok (settings, request.text) := by
    rw [resolves.loaded]
    change (options.text host request.path).bind _ = _
    rw [resolves.isText]
    rfl
  unfold CheckOptions.run
  simp only [found, prepared]
  rfl

/-- What keeps a check from its start does not depend on the checker, nor on how much is shown. -/
theorem exists_failure_of_unresolved
    (unresolved : ∀ request settings, ¬ options.Resolves host line request settings) :
    ∃ failure, ∀ launch mode, (options.run host launch line mode).value = .failure failure := by
  unfold CheckOptions.run
  cases located : options.path host.files with
  | error failure => exact ⟨failure, fun _ _ => rfl⟩
  | ok path =>
      cases inProject : projectOf host.files line.project path with
      | error failure =>
          refine ⟨failure, fun _ _ => ?_⟩
          simp only [bind, Except.bind, inProject]
          rfl
      | ok root =>
          cases loaded : options.settings host root line.config with
          | error failure =>
              refine ⟨failure, fun _ _ => ?_⟩
              simp only [bind, Except.bind, inProject, pure, Except.pure, loaded]
              rfl
          | ok settings =>
              cases isText : options.text host path with
              | error failure =>
                  refine ⟨failure, fun _ _ => ?_⟩
                  simp only [bind, Except.bind, inProject, pure, Except.pure, loaded, isText]
                  rfl
              | ok text =>
                  exact (unresolved ⟨text, path, root⟩ settings
                    ⟨located, inProject, loaded, isText⟩).elim

/-- A check that does not find all it needs fails before it has shown anything. -/
theorem run_of_unresolved
    (unresolved : ∀ request settings, ¬ options.Resolves host line request settings)
    (launch : Launch → Except Failure Finished) (mode : OutputMode) :
    ∃ failure, (options.run host launch line mode).value = .failure failure := by
  obtain ⟨failure, fails⟩ := exists_failure_of_unresolved unresolved
  exact ⟨failure, fails launch mode⟩

end CheckOptions

end FlowCheck
