import FlowCheck.Editor
import FlowCheck.Proofs.Report.InPlace

/-! # What an editor is given

An editor that knows path, project and text of a file is given the diagnostics of the checker's
output, each once and in order. They are the ones that are read off the output alone, placed by the
editor's own line index if it has one. In every other case, be it that the editor does not know
enough, or that the run or the reading of its output fails, the editor is given nothing.
-/

namespace FlowCheck

/-! ## Diagnostics without failures -/

namespace Settings

variable {settings : Settings} {run : Launch → Except Failure Finished} {index : LineIndex}
  {request : Request}

/-- An editor is given the diagnostics of a check that comes to a result. -/
theorem diagnose_of_check {result : CheckResult}
    (checked : (settings.check run index request).value = .ok result) :
    (settings.diagnose run index request).value = result.diagnostics := by
  unfold diagnose
  rcases logged : settings.check run index request with ⟨value, events⟩
  rw [logged] at checked
  obtain rfl : value = _ := checked
  rfl

/-- A verdict leaves its diagnostics. -/
theorem diagnose_of_verdict {verdict : Verdict}
    (judged : Verdict.ofRun (run (settings.launch request)) = .ok verdict) :
    (settings.diagnose run index request).value =
      ((settings.target request).diagnostics index verdict.issues).value := by
  obtain ⟨finished, ran, decoded⟩ := Verdict.ofRun_eq_ok_iff.mp judged
  exact diagnose_of_check (check_of_verdict ran decoded index)

/-- A failure leaves no diagnostics. -/
theorem diagnose_of_failure {failure : Failure}
    (unjudged : Verdict.ofRun (run (settings.launch request)) = .error failure) :
    (settings.diagnose run index request).value = [] := by
  have checked := check_of_failure unjudged index
  unfold diagnose
  rcases logged : settings.check run index request with ⟨value, events⟩
  rw [logged] at checked
  obtain rfl : value = _ := checked
  rfl

/-- Output makes diagnostics exactly if it is read as a verdict. -/
theorem exists_diagnosticsOf_iff {raw : String} :
    (∃ diagnostics, (settings.diagnosticsOf index request raw).value = .ok diagnostics) ↔
      ∃ verdict, Verdict.decode raw = .ok verdict := by
  rw [diagnosticsOf_value]
  cases Verdict.decode raw with
  | error failure => simp [Except.map]
  | ok verdict => simp [Except.map]

end Settings

/-! ## Annotations -/

namespace EditorFile

/-- An editor knows all that the request for a check needs. -/
structure Knows (file : EditorFile) (request : Request) : Prop where
  path : file.path = some request.path
  root : file.root = some request.root
  text : file.text = some request.text

/-- A file can be checked exactly if all that a request needs is known of it. -/
theorem request_value_eq_some_iff {file : EditorFile} {request : Request} :
    file.request.value = some request ↔ file.Knows request := by
  obtain ⟨path, root, text, index⟩ := file
  obtain ⟨itsText, itsPath, itsRoot⟩ := request
  constructor
  · intro asked
    cases path with
    | none => cases asked
    | some path =>
        cases root with
        | none => cases asked
        | some root =>
            cases text with
            | none => cases asked
            | some text =>
                cases asked
                exact ⟨rfl, rfl, rfl⟩
  · intro knows
    obtain ⟨isPath, isRoot, isText⟩ := knows
    cases isPath
    cases isRoot
    cases isText
    rfl

/-- What the diagnostics of a file are: none, unless there is a request for its check. -/
def diagnostics (file : EditorFile) (settings : Settings)
    (run : Launch → Except Failure Finished) : List Diagnostic :=
  match file.request.value with
  | none => []
  | some request => (settings.diagnose run (file.index.getD request.lineIndex) request).value

/-- What is delivered to a sink is all diagnostics of the file, and their number is told. -/
theorem deliver_value (file : EditorFile) (settings : Settings)
    (run : Launch → Except Failure Finished) {State : Type} (sink : AnnotationSink State)
    (state : State) :
    (file.deliver settings run sink state).value =
      (sink.apply state (file.diagnostics settings run),
        (file.diagnostics settings run).length) := by
  unfold deliver diagnostics
  rcases file.request with ⟨request | request, events⟩ <;> rfl

end EditorFile

/-- A sink that records keeps an annotation for each diagnostic. -/
theorem AnnotationSink.apply_recording (diagnostics : List Diagnostic) (kept : List Annotation) :
    recording.apply kept diagnostics = kept ++ diagnostics.map Diagnostic.annotation := by
  unfold apply
  induction diagnostics generalizing kept with
  | nil => exact (List.append_nil kept).symm
  | cons diagnostic diagnostics ih =>
      rw [List.foldl_cons, ih, List.map_cons]
      exact List.append_assoc kept [diagnostic.annotation] _

/-- Whatever a sink does, it is called once for each annotation that a recording keeps. -/
theorem AnnotationSink.apply_eq_foldl {State : Type} (sink : AnnotationSink State) (state : State)
    (diagnostics : List Diagnostic) :
    sink.apply state diagnostics =
      (diagnostics.map Diagnostic.annotation).foldl (fun state call =>
        sink.annotate state call.range call.message call.severity) state := by
  rw [apply, List.foldl_map]
  rfl

/-- The annotations of a file are those of its diagnostics. -/
theorem EditorFile.annotate_value (file : EditorFile) (settings : Settings)
    (run : Launch → Except Failure Finished) :
    (file.annotate settings run).value =
      (file.diagnostics settings run).map Diagnostic.annotation := by
  have recorded := file.deliver_value settings run .recording []
  change (file.deliver settings run .recording []).value.1 = _
  rw [recorded, AnnotationSink.apply_recording]
  rfl

/-- **An editor is given what the output says.** Whatever it does with annotations, it gets one call
for each, in order, and the number of calls. If it knows all that a check needs, the run succeeds
and its output is read as a verdict, then there is one for each diagnostic that the output makes,
with its range, its message and its severity. Otherwise there is none. -/
theorem editor_given_diagnostics (file : EditorFile) (settings : Settings)
    (run : Launch → Except Failure Finished) :
    let calls := (file.annotate settings run).value
    (∀ (State : Type) (sink : AnnotationSink State) (state : State),
      (file.deliver settings run sink state).value =
        (calls.foldl (fun state call =>
          sink.annotate state call.range call.message call.severity) state, calls.length)) ∧
    (∀ request finished verdict, file.Knows request →
      run (settings.launch request) = .ok finished →
      Verdict.decode finished.output = .ok verdict →
        ∃ diagnostics, (settings.diagnosticsOf (file.index.getD request.lineIndex) request
            finished.output).value = .ok diagnostics ∧
          calls = diagnostics.map fun diagnostic =>
            ⟨diagnostic.range, diagnostic.message, diagnostic.severity⟩) ∧
    ((∀ request finished verdict, file.Knows request →
      run (settings.launch request) = .ok finished →
        Verdict.decode finished.output ≠ .ok verdict) → calls = []) := by
  intro calls
  have isMap : calls = (file.diagnostics settings run).map Diagnostic.annotation :=
    file.annotate_value settings run
  refine ⟨?_, ?_, ?_⟩
  · intro State sink state
    rw [file.deliver_value settings run, sink.apply_eq_foldl, isMap, List.length_map]
  · intro request finished verdict knows ran decoded
    refine ⟨_, ?_, isMap⟩
    have judged : Verdict.ofRun (run (settings.launch request)) = .ok verdict :=
      Verdict.ofRun_eq_ok_iff.mpr ⟨finished, ran, decoded⟩
    rw [Settings.diagnosticsOf_value, decoded, EditorFile.diagnostics,
      EditorFile.request_value_eq_some_iff.mpr knows]
    dsimp only
    rw [Settings.diagnose_of_verdict judged]
    rfl
  · intro unjudged
    rw [isMap, List.map_eq_nil_iff, EditorFile.diagnostics]
    cases asked : file.request.value with
    | none => rfl
    | some request =>
        cases judged : Verdict.ofRun (run (settings.launch request)) with
        | error failure => exact Settings.diagnose_of_failure judged
        | ok verdict =>
            obtain ⟨finished, ran, decoded⟩ := Verdict.ofRun_eq_ok_iff.mp judged
            have knows := EditorFile.request_value_eq_some_iff.mp asked
            exact (unjudged request finished verdict knows ran decoded).elim

/-- The file of three lines in an editor that counts bytes. -/
def byteFile : EditorFile where
  path := some "/p/a.js"
  root := some "/p"
  text := some "é\r\nab\n"
  index := some (.ofChars .utf8 "é\r\nab\n".toList)

/-- Of a stale answer an editor is given the part that still has a place, in its own offsets. An
editor that does not know the text is given nothing. -/
theorem editor_given_diagnostics_of_stale_run :
    let run : Launch → Except Failure Finished := fun _ => .ok staleRun
    byteFile.Knows threeLineRequest ∧
      (∃ verdict, Verdict.decode staleRun.output = .ok verdict) ∧
      (byteFile.annotate {} run).value = [⟨⟨5, 7⟩, "last. stale", .error⟩] ∧
      ({ byteFile with text := none }.annotate {} run).value = [] := by
  intro run
  have knows : byteFile.Knows threeLineRequest := ⟨rfl, rfl, rfl⟩
  have translated : (Settings.diagnosticsOf {} (byteFile.index.getD threeLineRequest.lineIndex)
      threeLineRequest staleRun.output).value = .ok [⟨⟨5, 7⟩, .error, "last. stale"⟩] := by
    decide +kernel
  obtain ⟨verdict, decoded⟩ := Settings.exists_diagnosticsOf_iff.mp ⟨_, translated⟩
  obtain ⟨-, given, -⟩ := editor_given_diagnostics byteFile {} run
  obtain ⟨diagnostics, others, calls⟩ := given _ _ _ knows rfl decoded
  obtain rfl := Except.ok.inj (translated.symm.trans others)
  refine ⟨knows, ⟨verdict, decoded⟩, calls, ?_⟩
  obtain ⟨-, -, nothing⟩ := editor_given_diagnostics { byteFile with text := none } {} run
  apply nothing
  intro request finished verdict others
  cases others.text

end FlowCheck
