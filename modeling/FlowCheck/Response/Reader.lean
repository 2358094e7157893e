import FlowCheck.Response
import FlowCheck.Failure
import FlowCheck.Json.Reader
import FlowCheck.Json.Record
import FlowCheck.Text.Blank

/-!
# Reading responses

A response is read in one of two ways: whole, with every issue typed, or for its verdict, where the
issues stay an untyped value until the check is known to have failed. Blank output is told apart
from malformed output, which is kept.
-/

namespace FlowCheck

open Json

variable {Node : Type}

/-- Read a fragment. Null stands for an empty text, but not for a number. -/
def Fragment.read? (view : View Node) (node : Node) : Option Fragment := do
  match ← view.record? ["descr", "path", "line", "endline", "start", "end"] node with
  | [description, path, startLine, endLine, startColumn, endColumn] =>
    return {
      description := ← View.fieldOr view.textOrEmpty? "" description
      path := ← View.fieldOr view.textOrEmpty? "" path
      startLine := ← View.fieldOr view.int64? 0 startLine
      endLine := ← View.fieldOr view.int64? 0 endLine
      startColumn := ← View.fieldOr view.int64? 0 startColumn
      endColumn := ← View.fieldOr view.int64? 0 endColumn }
  | _ => none

/-- Read an issue. Null stands for a missing level or kind, but not for a list of fragments. -/
def Issue.read? (view : View Node) (node : Node) : Option Issue := do
  match ← view.record? ["message", "level", "kind"] node with
  | [fragments, level, kind] =>
    return {
      fragments := ← View.fieldOr (view.list? (Fragment.read? view)) [] fragments
      level := ← View.fieldOr view.nullableText? none level
      kind := ← View.fieldOr view.nullableText? none kind }
  | _ => none

/-- Read a list of issues. -/
def Issue.readList? (view : View Node) (node : Node) : Option (List Issue) :=
  view.list? (Issue.read? view) node

/-- Read a field that null empties. -/
def readNullable {α : Type} (view : View Node) (read : Node → Option α) (node : Node) :
    Option (Option α) :=
  if view.isNull node then some none else (read node).map some

namespace Response

/-- The response that a tree is, every issue typed. -/
def ofTree? (tree : Tree) : Option Response := do
  match ← Tree.view.record? ["passed", "errors"] tree with
  | [some passed, issues] =>
    return {
      passed := ← Tree.view.bool? passed
      issues := ← View.fieldOr (readNullable Tree.view (Issue.readList? Tree.view)) none issues }
  | _ => none

/-- The verdict of a tree and its issues as one untyped value, which nests inside the response. -/
def untyped? (tree : Tree) : Option (Bool × Option Value) := do
  match ← Tree.view.record? ["passed", "errors"] tree with
  | [some passed, issues] =>
    return (← Tree.view.bool? passed,
      ← View.fieldOr (readNullable Tree.view (Value.ofTree? (maxDepth - 1))) none issues)
  | _ => none

/-- What is said of output that is not JSON or does not have the shape of a response. -/
def malformed (raw : String) : Failure :=
  .malformedResponse "not a checker response" raw

/-- Read raw output with a reader of trees. -/
def readRaw {α : Type} (read : Tree → Option α) (raw : String) : Except Failure α :=
  if raw.toList.all Text.isBlank then .error .emptyOutput
  else match (Tree.ofChars? raw.toList).bind read with
    | some value => .ok value
    | none => .error (malformed raw)

/-- Read raw output as a response, without asking whether it makes sense. -/
def parse (raw : String) : Except Failure Response :=
  readRaw ofTree? raw

end Response

/-- Read raw output for its verdict. A passed check needs no look at the issues; a failed one has to
list them. -/
def Verdict.decode (raw : String) : Except Failure Verdict := do
  match ← Response.readRaw Response.untyped? raw with
  | (true, _) => return .passed
  | (false, none) => throw .inconsistentResponse
  | (false, some issues) =>
    match Issue.readList? Value.view issues with
    | some issues => return .failed issues
    | none => throw (Response.malformed raw)

end FlowCheck
