/-!
# JSON as it is written

A tree holds a JSON text as its grammar sees it, before anything is asked of its meaning: numbers
keep their digits, strings keep their escapes, and objects keep every member in order. Readers of
typed data look only at the parts they know, so a number too large for any type or half of a
surrogate pair does no harm where nobody looks.
-/

namespace FlowCheck.Json

/-- One unit of a string: a character, or the 16-bit unit that a `\u` escape names. -/
inductive TextUnit where
  | character (c : Char)
  | code (unit : Nat)
  deriving Repr, DecidableEq

/-- A number as it is written. Without a fraction or an exponent those parts are absent. -/
structure Numeral where
  negative : Bool
  whole : List Char
  fraction : List Char
  exponent : Option (Bool × List Char)
  deriving Repr, DecidableEq

/-- A JSON text. -/
inductive Tree where
  | null
  | bool (value : Bool)
  | number (numeral : Numeral)
  | text (units : List TextUnit)
  | array (items : List Tree)
  | object (members : List (List TextUnit × Tree))

/-- The characters of a string, added in front of those already decoded in reverse. A high
surrogate has to be followed at once by a low one. -/
def decodeUnits (decoded : List Char) : List TextUnit → Option (List Char)
  | [] => some decoded.reverse
  | .character c :: rest => decodeUnits (c :: decoded) rest
  | .code high :: rest =>
    if high < 0xD800 ∨ 0xDFFF < high then decodeUnits (Char.ofNat high :: decoded) rest
    else if high < 0xDC00 then
      match rest with
      | .code low :: rest =>
        if 0xDC00 ≤ low ∧ low ≤ 0xDFFF then
          let c := Char.ofNat (0x10000 + (high - 0xD800) * 0x400 + (low - 0xDC00))
          decodeUnits (c :: decoded) rest
        else none
      | _ => none
    else none

/-- The text of a string, unless an escape leaves half of a surrogate pair. -/
def textOfUnits? (units : List TextUnit) : Option String :=
  (decodeUnits [] units).map String.ofList

end FlowCheck.Json
