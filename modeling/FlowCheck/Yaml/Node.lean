import FlowCheck.Yaml.Token

/-!
# Nodes of YAML

A document is a node. Nodes keep what the text says of them, tags and anchors included; what they
mean as values is another matter.
-/

namespace FlowCheck.Yaml

/-- What a tag asks for. -/
inductive Tag where
  /-- An application's own tag, by its name without the exclamation mark. The tag that is nothing
  but an exclamation mark has that as its name. -/
  | own (name : String)
  /-- An application's own tag that is no text. -/
  | unreadable
  | boolean
  | integer
  | float
  | null
  /-- Any other tag. -/
  | other
  deriving Repr, DecidableEq

/-- The octets of a text. -/
def octetsOf (text : String) : List UInt8 :=
  text.toUTF8.toList

/-- The tag that is written by these octets. -/
def Tag.ofOctets (octets : List UInt8) : Tag :=
  match octets with
  | [] => .other
  | first :: rest =>
    if first = '!'.toNat.toUInt8 then
      match String.fromUTF8? ⟨(if rest.isEmpty then [first] else rest).toArray⟩ with
      | some name => .own name
      | none => .unreadable
    else if octets = octetsOf "tag:yaml.org,2002:bool" then .boolean
    else if octets = octetsOf "tag:yaml.org,2002:int" then .integer
    else if octets = octetsOf "tag:yaml.org,2002:float" then .float
    else if octets = octetsOf "tag:yaml.org,2002:null" then .null
    else .other

/-- What is said of a node beside its content. Anchors are numbers. -/
structure Properties where
  anchor : Option Nat := none
  tag : Option Tag := none
  deriving Repr, DecidableEq

/-- A node. -/
inductive Node where
  | alias (anchor : Nat)
  | scalar (properties : Properties) (text : List Char) (form : ScalarForm)
  | sequence (properties : Properties) (items : List Node)
  | mapping (properties : Properties) (entries : List (Node × Node))

namespace Node

/-- The node that is written by nothing. -/
def empty (properties : Properties) : Node :=
  .scalar properties [] .plain

mutual

/-- How many events a node takes: collections begin and end. -/
def size : Node → Nat
  | .alias _ | .scalar .. => 1
  | .sequence _ items => sizeItems items + 2
  | .mapping _ entries => sizeEntries entries + 2

/-- How many events the items of a sequence take. -/
def sizeItems : List Node → Nat
  | [] => 0
  | item :: rest => size item + sizeItems rest

/-- How many events the entries of a mapping take. -/
def sizeEntries : List (Node × Node) → Nat
  | [] => 0
  | (key, value) :: rest => size key + size value + sizeEntries rest

end

mutual

/-- The anchored nodes in the order of their beginnings, added to the end of a table. -/
def anchored (table : Array (Nat × Node)) : Node → Array (Nat × Node)
  | .alias _ => table
  | .scalar properties text form =>
    match properties.anchor with
    | some anchor => table.push (anchor, .scalar properties text form)
    | none => table
  | .sequence properties items =>
    let table := match properties.anchor with
      | some anchor => table.push (anchor, .sequence properties items)
      | none => table
    anchoredItems table items
  | .mapping properties entries =>
    let table := match properties.anchor with
      | some anchor => table.push (anchor, .mapping properties entries)
      | none => table
    anchoredEntries table entries

/-- The anchored nodes among the items of a sequence. -/
def anchoredItems (table : Array (Nat × Node)) : List Node → Array (Nat × Node)
  | [] => table
  | item :: rest => anchoredItems (anchored table item) rest

/-- The anchored nodes among the entries of a mapping. -/
def anchoredEntries (table : Array (Nat × Node)) : List (Node × Node) → Array (Nat × Node)
  | [] => table
  | (key, value) :: rest => anchoredEntries (anchored (anchored table key) value) rest

end

end Node

end FlowCheck.Yaml
