import FlowCheck.Yaml.Node.Builder
import FlowCheck.Yaml.Token.Stream

/-!
# Documents of YAML

A text holds at most one document here: directives, the document's node, and the end. A text without
a document is not the same as a document with an empty node.
-/

namespace FlowCheck.Yaml

/-- How far the tokens of a text have been read. -/
inductive Progress where
  /-- Before the document. Its beginning has to be marked once there are directives. -/
  | before (versioned : Bool) (handles : Handles) (marked : Bool)
  | within (building : Building)
  | after (node : Node)

namespace Progress

/-- Read a token behind the document. -/
def readAfter (node : Node) : Token → Option Progress
  | .documentEnd | .streamEnd => some (after node)
  | _ => none

/-- Read a token of the document. -/
def readWithin (building : Building) (token : Token) : Option Progress := do
  let building ← building.settle token
  match building.result with
  | some node => readAfter node token
  | none =>
    let building ← building.accept token
    match building.result with
    | some node => return after node
    | none => return within building

/-- Read a token before the document. -/
def readBefore (versioned : Bool) (handles : Handles) (marked : Bool) :
    Token → Option Progress
  | .versionDirective major minor =>
    if !versioned && major = 1 && (minor = 1 || minor = 2) then some (before true handles true)
    else none
  | .tagDirective handle replacement =>
    if (handles.lookup handle).isSome then none
    else some (before versioned (handles ++ [(handle, replacement)]) true)
  | .documentStart => some (within { handles })
  | .streamEnd => if marked then none else some (before versioned handles marked)
  | .documentEnd => none
  | token => if marked then none else readWithin { handles } token

/-- Read a token. -/
def read : Progress → Token → Option Progress
  | before versioned handles marked, token => readBefore versioned handles marked token
  | within building, token => readWithin building token
  | after node, token => readAfter node token

/-- The node of the document, if there is a document and it is complete. -/
def result? : Progress → Option (Option Node)
  | before .. => some none
  | within _ => none
  | after node => some (some node)

end Progress

/-- The node of the only document among tokens, or nothing when there is no document. -/
def Node.ofTokens? (tokens : List Token) : Option (Option Node) := do
  (← tokens.foldlM Progress.read (.before false [] false)).result?

end FlowCheck.Yaml
