import FlowCheck.Yaml.Document
import FlowCheck.Yaml.Scalar

/-!
# The meaning of documents

The value of a document is that of its node, aliases standing for the nodes they name. Mappings have
no two keys that are the same, collections nest to a bounded depth, and aliases are followed a
bounded number of times, so that a short text cannot stand for a huge value.
-/

namespace FlowCheck.Yaml

/-- The greatest depth of nested collections. -/
def maxDepth : Nat := 128

/-- How often aliases are followed for each event of a document. -/
def aliasesPerEvent : Nat := 100

/-- The value of a scalar, without the tags of applications. -/
def scalarValue? (tag : Option Tag) (text : List Char) (form : ScalarForm) : Option Value :=
  let asText := some (Value.text (String.ofList text))
  let asWritten := if form = .plain then plainValue? text else asText
  match tag with
  | none | some (.own _) | some .unreadable => asWritten
  | some .boolean => (boolOf? text).map .bool
  | some .integer => (integerValue? text).join
  | some .float => (floatOf? text).map .float
  | some .null => if isNullText text then some .null else none
  | some .other => asText

/-- A value behind the tag of an application, if it has one. -/
def withTag (tag : Option Tag) (value : Value) : Value :=
  match tag with
  | some (.own name) => .tagged name value
  | _ => value

/-- The mapping with these entries, if no two keys are the same. -/
def distinct? : List (Value × Value) → Option (List (Value × Value))
  | [] => some []
  | entry :: rest => do
    let rest ← distinct? rest
    if rest.any fun other => other.1.same entry.1 then none else some (entry :: rest)

/-- What an alias may name, and how often aliases may still be followed. -/
structure Aliases where
  table : Array (Nat × Node)
  left : Nat

/-- The node that an alias stands for: of nodes with one number, the last. -/
def Aliases.node? (aliases : Aliases) (anchor : Nat) : Option Node :=
  (aliases.table.toList.reverse.find? fun entry => entry.1 = anchor).map (·.2)

/-- A value, and the state after following aliases. -/
abbrev Following (α : Type) := StateT Aliases Option α

/-- The node itself, or what an alias stands for. -/
def follow : Node → Following Node
  | .alias anchor => do
    let aliases ← get
    match aliases.left with
    | 0 => failure
    | left + 1 =>
      set { aliases with left }
      (aliases.node? anchor).elim failure pure
  | node => pure node

/-- The value of a scalar with its properties. -/
def scalarOf (properties : Properties) (text : List Char) (form : ScalarForm) : Following Value :=
  (scalarValue? properties.tag text form).elim failure fun value =>
    return withTag properties.tag value

/-- The value of a node whose collections may nest so deep. -/
def valueOf : Nat → Node → Following Value
  | 0, node => do
    match ← follow node with
    | .scalar properties text form => scalarOf properties text form
    | _ => failure
  | depth + 1, node => do
    match ← follow node with
    | .alias _ => failure
    | .scalar properties text form => scalarOf properties text form
    | .sequence properties items =>
      let items ← items.mapM (valueOf depth)
      return withTag properties.tag (.sequence items)
    | .mapping properties entries =>
      let entries ← entries.mapM fun entry =>
        return (← valueOf depth entry.1, ← valueOf depth entry.2)
      let entries ← (distinct? entries).elim failure pure
      return withTag properties.tag (.mapping entries)

/-- The value of a document's node. -/
def Value.ofNode? (node : Node) : Option Value :=
  ((valueOf maxDepth node).run ⟨node.anchored #[], aliasesPerEvent * node.size⟩).map (·.1)

/-- The value of a text: that of its only document, and null if it has none. -/
def Value.ofChars? (text : List Char) : Option Value := do
  match ← Node.ofTokens? (← Token.ofChars? text) with
  | some node => Value.ofNode? node
  | none => return .null

end FlowCheck.Yaml
