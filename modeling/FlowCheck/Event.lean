import FlowCheck.Failure
import FlowCheck.Span
import FlowCheck.Text.Quoted

/-!
# Events

What happens on the way to a result is recorded as events, in order, beside the result. An event
is a fact; its level and its wording are functions of it.
-/

namespace FlowCheck

/-- How much an event matters. -/
inductive EventLevel where
  | error
  | warn
  | info
  | debug
  deriving Repr, DecidableEq

/-- Something worth recording. Issues are numbered from zero. -/
inductive Event where
  /-- An issue has no fragments. -/
  | issueWithoutFragments (issue : Nat)
  /-- An issue belongs to another file. -/
  | issueElsewhere (issue : Nat) (path : String)
  /-- A fragment of an issue has no place in the document. -/
  | fragmentDropped (issue : Nat) (description : String) (reason : PlacementError)
  /-- The checker's output could not be read. -/
  | unreadableOutput (raw : String)
  /-- A check of a file begins. -/
  | checkStarted (path : String)
  /-- The checker exited, with a code unless a signal ended it. -/
  | checkerExited (code : Option Nat)
  /-- A check of a file is complete. -/
  | checkFinished (path : String) (diagnostics : Nat)
  /-- A check of a file has no result. -/
  | checkFailed (path : String) (failure : Failure)
  /-- A buffer has no file. -/
  | bufferWithoutFile
  /-- A file belongs to no project. -/
  | fileWithoutProject (path : String)
  /-- The text of a file is not at hand. -/
  | fileWithoutText (path : String)
  /-- A file is about to be checked in a project. -/
  | checking (path : String) (root : String)

/-- The written form of an exit code that may be missing. -/
def exitCodeText : Option Nat → String
  | some code => s!"Some({code})"
  | none => "None"

/-- The first `count` characters of a text, with dots if that is not all. -/
def excerpt (count : Nat) (text : String) : String :=
  let chars := text.toList
  if chars.length ≤ count then text else String.ofList (chars.take count) ++ "..."

namespace Event

/-- The level of an event. -/
def level : Event → EventLevel
  | issueWithoutFragments _ => .warn
  | issueElsewhere .. => .debug
  | fragmentDropped .. => .warn
  | unreadableOutput _ => .debug
  | checkStarted _ => .info
  | checkerExited _ => .debug
  | checkFinished .. => .info
  | checkFailed _ failure =>
    match failure.kind with
    | .inconsistentResponse => .error
    | _ => .warn
  | bufferWithoutFile => .info
  | fileWithoutProject _ => .info
  | fileWithoutText _ => .info
  | checking .. => .debug

/-- The event in words. -/
def message : Event → String
  | issueWithoutFragments issue => s!"skipping checker error #{issue}: no message parts"
  | issueElsewhere issue path => s!"skipping checker error #{issue} reported for {path}"
  | fragmentDropped issue description reason =>
    s!"dropping part of checker error #{issue} ({Text.quoted description}): {reason.message}"
  | unreadableOutput raw => s!"unparseable checker output: {excerpt 200 raw}"
  | checkStarted path => s!"running Flow check for {path}"
  | checkerExited code => s!"checker exit code {exitCodeText code}"
  | checkFinished path diagnostics => s!"Flow check for {path} produced {diagnostics} diagnostic(s)"
  | checkFailed path failure =>
    match failure with
    | .inconsistentResponse => s!"checker bug while checking {path}: {failure.message}"
    | .malformedResponse _ raw =>
      s!"no diagnostics for {path}: {failure.message} (raw output: {Text.quoted raw})"
    | _ => s!"no diagnostics for {path}: {failure.message}"
  | bufferWithoutFile => "skipping Flow check: file has no path on disk"
  | fileWithoutProject path => s!"skipping Flow check for {path}: no project root"
  | fileWithoutText path => s!"skipping Flow check for {path}: missing document"
  | checking path root => s!"checking {path} in project {root}"

end Event

/-- The name of a level. -/
def EventLevel.name : EventLevel → String
  | .error => "ERROR"
  | .warn => "WARN"
  | .info => "INFO"
  | .debug => "DEBUG"

/-- A result together with the events on the way to it. -/
structure Logged (α : Type) where
  value : α
  events : List Event

namespace Logged

/-- A result to which nothing led. -/
def pure {α : Type} (value : α) : Logged α :=
  ⟨value, []⟩

/-- What follows a result, its events after those so far. -/
def bind {α β : Type} (first : Logged α) (next : α → Logged β) : Logged β :=
  let second := next first.value
  ⟨second.value, first.events ++ second.events⟩

instance : Monad Logged where
  pure := Logged.pure
  bind := Logged.bind

/-- Record one event. -/
def note (event : Event) : Logged Unit :=
  ⟨(), [event]⟩

end Logged

end FlowCheck
