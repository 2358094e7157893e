import FlowCheck.Json.Number

/-!
# JSON values

A value is a JSON text whose every part was checked: numbers are in range, strings are text, and
nesting is bounded. Objects keep all members; of members with one key the last counts.
-/

namespace FlowCheck.Json

/-- A checked JSON value. -/
inductive Value where
  | null
  | bool (value : Bool)
  | number (number : Number)
  | text (text : String)
  | array (items : List Value)
  | object (members : List (String × Value))

/-- The greatest depth of nested arrays and objects. -/
def maxDepth : Nat := 127

namespace Value

mutual

/-- Check a tree that may nest `depth` deep. -/
def ofTree? (depth : Nat) : Tree → Option Value
  | .null => some .null
  | .bool value => some (.bool value)
  | .number numeral => numeral.number?.map .number
  | .text units => (textOfUnits? units).map .text
  | .array items =>
    match depth with
    | 0 => none
    | depth + 1 => (ofItems? depth items).map .array
  | .object members =>
    match depth with
    | 0 => none
    | depth + 1 => (ofMembers? depth members).map .object

/-- Check the items of an array. -/
def ofItems? (depth : Nat) : List Tree → Option (List Value)
  | [] => some []
  | item :: rest => do return (← ofTree? depth item) :: (← ofItems? depth rest)

/-- Check the members of an object. -/
def ofMembers? (depth : Nat) : List (List TextUnit × Tree) → Option (List (String × Value))
  | [] => some []
  | (key, value) :: rest => do
    return (← textOfUnits? key, ← ofTree? depth value) :: (← ofMembers? depth rest)

end

/-- The integer value. -/
def ofInt (value : Int) : Value :=
  .number (.integer value)

/-- The value of a natural number. -/
def ofNat (value : Nat) : Value :=
  .ofInt value

end Value

end FlowCheck.Json
