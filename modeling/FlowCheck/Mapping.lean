import FlowCheck.Diagnostic
import FlowCheck.Event
import FlowCheck.Response

/-!
# From issues to diagnostics

A checker reports issues of many files; a host wants those of the one file it asked about. An issue
belongs to the file if its primary fragment does. Each fragment of such an issue that lies in the
file becomes a diagnostic with the message of the whole issue, unless it has no place in the
document. What does not become a diagnostic becomes an event.
-/

namespace FlowCheck

/-- The file that diagnostics are wanted for. The checker names it by its path or, because it reads
the text from its standard input, by the sentinel. -/
structure Target where
  path : String
  sentinel : String
  deriving Repr, DecidableEq

/-- What stands between a fragment's description and the text before it. A fragment without a file
of its own begins a new sentence. -/
def Fragment.joint (sentinel : String) (fragment : Fragment) : String :=
  if fragment.path = "" ∨ fragment.path = sentinel then ". " else " "

/-- The message of an issue: the descriptions of all its fragments. -/
def Issue.message (sentinel : String) (issue : Issue) : String :=
  match issue.fragments with
  | [] => ""
  | first :: rest =>
    rest.foldl (fun text fragment => text ++ fragment.joint sentinel ++ fragment.description)
      first.description

/-- The severity of an issue. -/
def Issue.severity (issue : Issue) : Severity :=
  .ofLevel issue.level

/-- What becomes of an issue, or of one of its fragments. -/
inductive Outcome where
  | diagnosed (diagnostic : Diagnostic)
  | noted (event : Event)

namespace Outcome

/-- What becomes of a fragment that lies in the file, as part of the issue with a number. -/
def ofFragment (index : LineIndex) (number : Nat) (severity : Severity) (message : String)
    (fragment : Fragment) : Outcome :=
  match fragment.span.place index with
  | .ok range => diagnosed ⟨range, severity, message⟩
  | .error reason => noted (.fragmentDropped number fragment.description reason)

/-- The diagnostic, if there is one. -/
def diagnostic? : Outcome → Option Diagnostic
  | diagnosed diagnostic => some diagnostic
  | noted _ => none

/-- The event, if there is one. -/
def event? : Outcome → Option Event
  | diagnosed _ => none
  | noted event => some event

end Outcome

namespace Target

/-- Whether a path names the target. -/
def isNamedBy (target : Target) (path : String) : Bool :=
  decide (path = target.path ∨ path = target.sentinel)

/-- Whether a fragment lies in the target. -/
def holds (target : Target) (fragment : Fragment) : Bool :=
  decide (fragment.path ≠ "") && target.isNamedBy fragment.path

/-- What becomes of the issue with a number. -/
def placeIssue (target : Target) (index : LineIndex) (number : Nat) (issue : Issue) :
    List Outcome :=
  match issue.fragments with
  | [] => [.noted (.issueWithoutFragments number)]
  | first :: _ =>
    if target.isNamedBy first.path then
      let message := issue.message target.sentinel
      (issue.fragments.filter target.holds).map
        (Outcome.ofFragment index number issue.severity message)
    else [.noted (.issueElsewhere number first.path)]

/-- What becomes of each issue of a list whose first has the given number. -/
def placeFrom (target : Target) (index : LineIndex) (number : Nat) (issues : List Issue) :
    List Outcome :=
  match issues with
  | [] => []
  | issue :: rest =>
    target.placeIssue index number issue ++ target.placeFrom index (number + 1) rest

/-- What becomes of the issues of a response. -/
def place (target : Target) (index : LineIndex) (issues : List Issue) : List Outcome :=
  target.placeFrom index 0 issues

/-- The diagnostics of the target, issue by issue. -/
def diagnostics (target : Target) (index : LineIndex) (issues : List Issue) :
    Logged (List Diagnostic) :=
  let outcomes := target.place index issues
  ⟨outcomes.filterMap Outcome.diagnostic?, outcomes.filterMap Outcome.event?⟩

end Target

end FlowCheck
