import FlowCheck.Json.Value

/-!
# Records in JSON

A record has declared fields. It is written as an object, in which other members are ignored, or as
an array of the fields in the order of their declaration, from whose end fields may be missing.
Records are read either from a tree, where a declared field must not come twice, or from a value,
where the last of several members counts. A view names what such a reader needs of either.
-/

namespace FlowCheck.Json

/-- What readers of typed data ask of a node. -/
structure View (Node : Type) where
  isNull : Node → Bool
  bool? : Node → Option Bool
  integer? : Node → Option Int
  text? : Node → Option String
  items? : Node → Option (List Node)
  /-- The members of an object, if all its keys are text. -/
  members? : Node → Option (List (String × Node))
  /-- A declared field among the members: refused, absent or found. -/
  field? : List (String × Node) → String → Option (Option Node)

namespace Tree

/-- The members with their keys as text, unless one is none. -/
def keyed? : List (List TextUnit × Tree) → Option (List (String × Tree))
  | [] => some []
  | (key, value) :: rest => do return (← textOfUnits? key, value) :: (← keyed? rest)

/-- Trees are read member by member, so a declared field that comes twice is refused. -/
def view : View Tree where
  isNull
    | .null => true
    | _ => false
  bool?
    | .bool value => some value
    | _ => none
  integer?
    | .number numeral =>
      match numeral.number? with
      | some (.integer value) => some value
      | _ => none
    | _ => none
  text?
    | .text units => textOfUnits? units
    | _ => none
  items?
    | .array items => some items
    | _ => none
  members?
    | .object members => keyed? members
    | _ => none
  field? members name :=
    match members.filter fun member => member.1 = name with
    | [] => some none
    | [member] => some (some member.2)
    | _ => none

end Tree

namespace Value

/-- Values have been read as a whole, so the last of several members counts. -/
def view : View Value where
  isNull
    | .null => true
    | _ => false
  bool?
    | .bool value => some value
    | _ => none
  integer?
    | .number (.integer value) => some value
    | _ => none
  text?
    | .text content => some content
    | _ => none
  items?
    | .array items => some items
    | _ => none
  members?
    | .object members => some members
    | _ => none
  field? members name :=
    some ((members.reverse.find? fun member => member.1 = name).map (·.2))

end Value

namespace View

variable {Node : Type}

/-- The fields of a record in the order of their declaration, those not written being absent. -/
def record? (view : View Node) (names : List String) (node : Node) : Option (List (Option Node)) :=
  match view.items? node with
  | some items =>
    if items.length ≤ names.length then
      some (items.map some ++ List.replicate (names.length - items.length) none)
    else none
  | none => (view.members? node).bind fun members => names.mapM (view.field? members)

/-- A field that has a default, used when the field is not written. -/
def fieldOr {α : Type} (read : Node → Option α) (default : α) : Option Node → Option α
  | some node => read node
  | none => some default

/-- A text, or null for none. -/
def nullableText? (view : View Node) (node : Node) : Option (Option String) :=
  if view.isNull node then some none else (view.text? node).map some

/-- A text, with null for the empty one. -/
def textOrEmpty? (view : View Node) (node : Node) : Option String :=
  (view.nullableText? node).map (·.getD "")

/-- A signed 64-bit integer. -/
def int64? (view : View Node) (node : Node) : Option Int64 :=
  (view.integer? node).bind fun value =>
    if -0x8000000000000000 ≤ value ∧ value < 0x8000000000000000 then some (Int64.ofInt value)
    else none

/-- An array whose items are read one by one. -/
def list? {α : Type} (view : View Node) (read : Node → Option α) (node : Node) :
    Option (List α) :=
  (view.items? node).bind fun items => items.mapM read

end View

end FlowCheck.Json
