import FlowCheck.Response
import FlowCheck.Json.Printer

/-!
# Writing responses

A response is written as one line of JSON, fields in the order of their declaration. A missing level
or kind is left out; a missing list of issues is null.
-/

namespace FlowCheck

open Json

/-- A fragment as JSON. -/
def Fragment.toJson (fragment : Fragment) : Value :=
  .object [
    ("descr", .text fragment.description),
    ("path", .text fragment.path),
    ("line", .ofInt fragment.startLine.toInt),
    ("endline", .ofInt fragment.endLine.toInt),
    ("start", .ofInt fragment.startColumn.toInt),
    ("end", .ofInt fragment.endColumn.toInt)]

/-- A field that is left out when it has no value. -/
def optionalText (key : String) : Option String → List (String × Value)
  | some text => [(key, .text text)]
  | none => []

/-- An issue as JSON. -/
def Issue.toJson (issue : Issue) : Value :=
  .object (("message", .array (issue.fragments.map Fragment.toJson)) ::
    (optionalText "level" issue.level ++ optionalText "kind" issue.kind))

/-- A list of issues as JSON. -/
def Issue.listToJson (issues : List Issue) : Value :=
  .array (issues.map Issue.toJson)

/-- A response as JSON. -/
def Response.toJson (response : Response) : Value :=
  .object [
    ("passed", .bool response.passed),
    ("errors", match response.issues with
      | some issues => Issue.listToJson issues
      | none => .null)]

/-- The text of a response. -/
def Response.write (response : Response) : String :=
  String.ofList response.toJson.compact

/-- The text of a list of issues. -/
def Issue.writeList (issues : List Issue) : String :=
  String.ofList (Issue.listToJson issues).compact

end FlowCheck
