import FlowCheck.Document

/-!
# Line indexes

A line index says where lines start in some unit of offset. Hosts count characters, UTF-16 code
units or bytes, or supply a table of their own, which need be neither sorted nor within the text.
-/

namespace FlowCheck

/-- What a host tells about its lines: where each starts, how many there are, and the length of
the whole text. -/
structure LineIndex where
  lineStart? : Nat → Option Nat
  lineCount : Nat
  length : Nat

/-- The unit in which offsets are counted. -/
inductive OffsetUnit where
  | character
  | utf16
  | utf8
  deriving Repr, DecidableEq

/-- How many units a character takes. -/
def OffsetUnit.width : OffsetUnit → Char → Nat
  | .character, _ => 1
  | .utf16, c => if c.val < 0x10000 then 1 else 2
  | .utf8, c => c.utf8Size

namespace LineIndex

/-- An index with a given table of line starts. -/
def ofStarts (starts : Array Nat) (lineCount length : Nat) : LineIndex where
  lineStart? line := starts[line]?
  lineCount := lineCount
  length := length

/-- The index of a text in a given unit. -/
def ofChars (unit : OffsetUnit) (chars : List Char) : LineIndex :=
  let starts := lineStarts unit.width chars
  ofStarts starts starts.size (textWidth unit.width chars)

end LineIndex

/-- The index of a document, in characters. -/
def Document.lineIndex (doc : Document) : LineIndex where
  lineStart? := doc.lineStart?
  lineCount := doc.lineCount
  length := doc.length

end FlowCheck
