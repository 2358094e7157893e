import FlowCheck.Checker

/-!
# Annotating an editor's file

An editor hands over what it knows of a file; any of it may be missing. If all of it is there, the
file is checked and each diagnostic is handed to the editor.
-/

namespace FlowCheck

/-- What an editor knows of a file. -/
structure EditorFile where
  path : Option String
  root : Option String
  text : Option String
  /-- The editor's own line index, when its offsets are not characters. -/
  index : Option LineIndex := none

/-- A highlighted range. -/
structure Annotation where
  range : TextRange
  message : String
  severity : Severity
  deriving Repr, DecidableEq

/-- The annotation for a diagnostic. -/
def Diagnostic.annotation (diagnostic : Diagnostic) : Annotation :=
  ⟨diagnostic.range, diagnostic.message, diagnostic.severity⟩

/-- Where an editor's annotations go: each call changes the editor's state. -/
structure AnnotationSink (State : Type) where
  annotate : State → TextRange → String → Severity → State

namespace AnnotationSink

variable {State : Type}

/-- Hand diagnostics to a sink, one after the other. -/
def apply (sink : AnnotationSink State) (state : State) (diagnostics : List Diagnostic) : State :=
  diagnostics.foldl (fun state diagnostic =>
    sink.annotate state diagnostic.range diagnostic.message diagnostic.severity) state

/-- The sink that keeps all that it is told, in order. -/
def recording : AnnotationSink (List Annotation) where
  annotate kept range message severity := kept ++ [⟨range, message, severity⟩]

end AnnotationSink

namespace EditorFile

/-- The request for a file's check, if nothing is missing. -/
def request (file : EditorFile) : Logged (Option Request) :=
  match file.path with
  | none => ⟨none, [.bufferWithoutFile]⟩
  | some path =>
    match file.root with
    | none => ⟨none, [.fileWithoutProject path]⟩
    | some root =>
      match file.text with
      | none => ⟨none, [.fileWithoutText path]⟩
      | some text => ⟨some ⟨text, path, root⟩, []⟩

/-- Check a file and hand its diagnostics to a sink. What becomes of the sink, and how many
diagnostics there were. -/
def deliver {State : Type} (file : EditorFile) (settings : Settings)
    (run : Launch → Except Failure Finished) (sink : AnnotationSink State) (state : State) :
    Logged (State × Nat) := do
  match ← file.request with
  | none => return (state, 0)
  | some request =>
    let index := file.index.getD request.lineIndex
    let diagnostics ← settings.diagnose run index request
    return (sink.apply state diagnostics, diagnostics.length)

/-- The annotations of a file, in order. -/
def annotate (file : EditorFile) (settings : Settings)
    (run : Launch → Except Failure Finished) : Logged (List Annotation) := do
  return (← file.deliver settings run .recording []).1

end EditorFile

end FlowCheck
