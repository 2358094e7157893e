import FlowCheck.Event
import FlowCheck.Launch
import FlowCheck.Mapping
import FlowCheck.Response.Reader
import FlowCheck.Settings

/-!
# Checks

A check runs the checker on the text of a document, reads its output, and maps the issues onto the
document. Running the checker is a function of its own, so that all of this can be said for any
run.
-/

namespace FlowCheck

/-- What a check needs from its host. The path and the root are canonical. -/
structure Request where
  text : String
  path : String
  root : String
  deriving Repr, DecidableEq

/-- The result of a check. -/
structure CheckResult where
  diagnostics : List Diagnostic
  /-- The checker's own verdict: failed even if all issues belong to other files. -/
  passed : Bool
  exitCode : Option Nat
  /-- How many milliseconds the checker took. -/
  elapsed : Nat := 0
  deriving Repr, DecidableEq

/-- Raw output as a verdict; unreadable output is noted. -/
def Verdict.read (raw : String) : Logged (Except Failure Verdict) :=
  match Verdict.decode raw with
  | .error (.malformedResponse reason raw) =>
    ⟨.error (.malformedResponse reason raw), [.unreadableOutput raw]⟩
  | result => ⟨result, []⟩

namespace Settings

/-- The target of a request. -/
def target (settings : Settings) (request : Request) : Target :=
  ⟨request.path, settings.sentinel⟩

/-- The run that a request asks for. -/
def launch (settings : Settings) (request : Request) : Launch where
  executable := settings.executable
  arguments := settings.arguments
  directory := request.root
  input := request.text
  deadline := settings.deadline.map fun seconds => 1000 * seconds.toNat

/-- The diagnostics that raw output makes for a request. -/
def diagnosticsOf (settings : Settings) (index : LineIndex) (request : Request) (raw : String) :
    Logged (Except Failure (List Diagnostic)) := do
  match ← Verdict.read raw with
  | .error failure => return .error failure
  | .ok verdict => return .ok (← (settings.target request).diagnostics index verdict.issues)

/-- What a run of the checker makes of a request. -/
def conclude (settings : Settings) (index : LineIndex) (request : Request)
    (run : Except Failure Finished) : Logged (Except Failure CheckResult) := do
  Logged.note (.checkStarted request.path)
  match run with
  | .error failure => return .error failure
  | .ok finished =>
    Logged.note (.checkerExited finished.exitCode)
    match ← Verdict.read finished.output with
    | .error failure => return .error failure
    | .ok verdict =>
      let diagnostics ← (settings.target request).diagnostics index verdict.issues
      Logged.note (.checkFinished request.path diagnostics.length)
      return .ok ⟨diagnostics, verdict = .passed, finished.exitCode, finished.elapsed⟩

/-- Check a document. -/
def check (settings : Settings) (run : Launch → Except Failure Finished) (index : LineIndex)
    (request : Request) : Logged (Except Failure CheckResult) :=
  settings.conclude index request (run (settings.launch request))

/-- The diagnostics of a document. Whatever fails is noted and leaves none. -/
def diagnose (settings : Settings) (run : Launch → Except Failure Finished) (index : LineIndex)
    (request : Request) : Logged (List Diagnostic) := do
  match ← settings.check run index request with
  | .ok result => return result.diagnostics
  | .error failure =>
    Logged.note (.checkFailed request.path failure)
    return []

end Settings

/-- The line index of a request's own text, in characters. -/
def Request.lineIndex (request : Request) : LineIndex :=
  (Document.ofString request.text).lineIndex

end FlowCheck
