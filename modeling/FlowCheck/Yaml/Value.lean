import FlowCheck.Decimal.Binary64

/-!
# YAML values

What a document means: scalars with their types, sequences, mappings in the order of their entries,
and values with a tag of an application.
-/

namespace FlowCheck.Yaml

/-- A value. -/
inductive Value where
  | null
  | bool (value : Bool)
  | integer (value : Int)
  | float (value : Binary64)
  | text (text : String)
  | sequence (items : List Value)
  | mapping (entries : List (Value × Value))
  | tagged (tag : String) (value : Value)

/-- The name of a tag, without one exclamation mark in front of it unless that is all. -/
def tagName (tag : String) : List Char :=
  match tag.toList with
  | '!' :: c :: rest => c :: rest
  | name => name

namespace Value

/-- The value behind all tags. -/
def untagged : Value → Value
  | .tagged _ value => untagged value
  | value => value

/-- Whether the value is null, tags aside. -/
def isNull (value : Value) : Bool :=
  match value.untagged with
  | .null => true
  | _ => false

mutual

/-- Whether two values are the same as keys. The order of a mapping's entries does not count, and a
float is never the same as an integer. -/
def same : Value → Value → Bool
  | .null, .null => true
  | .bool a, .bool b => a == b
  | .integer a, .integer b => a == b
  | .float a, .float b => a.equal b
  | .text a, .text b => a == b
  | .sequence a, .sequence b => sameItems a b
  | .mapping a, .mapping b => a.length == b.length && allIn a b
  | .tagged s a, .tagged t b => tagName s == tagName t && same a b
  | _, _ => false

/-- Whether two lists of items are the same. -/
def sameItems : List Value → List Value → Bool
  | [], [] => true
  | a :: as, b :: bs => same a b && sameItems as bs
  | _, _ => false

/-- Whether each entry of a mapping is also an entry of another. -/
def allIn : List (Value × Value) → List (Value × Value) → Bool
  | [], _ => true
  | (key, value) :: rest, entries =>
    (entries.any fun entry => same key entry.1 && same value entry.2) && allIn rest entries

end

end Value

end FlowCheck.Yaml
