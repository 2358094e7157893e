import FlowCheck.Document.LineIndex

/-!
# Spans and ranges

A checker names a piece of text by lines and columns that count from one, both ends included. A
host wants the half-open range of offsets. Placing a span turns the first into the second, in
exact integer arithmetic over signed 64-bit numbers: a sum that leaves them places nothing.
-/

namespace FlowCheck

/-- A half-open range of offsets. -/
structure TextRange where
  start : Nat
  stop : Nat
  deriving Repr, DecidableEq

namespace TextRange

/-- How many offsets the range holds; none when it ends before it starts. -/
def length (range : TextRange) : Nat :=
  range.stop - range.start

/-- Whether the range holds no offset. -/
def isEmpty (range : TextRange) : Bool :=
  decide (range.stop ≤ range.start)

/-- Ranges are ordered by their starts, then by their ends. -/
def le (left right : TextRange) : Bool :=
  decide (left.start < right.start ∨ (left.start = right.start ∧ left.stop ≤ right.stop))

/-- The written form of a range. -/
def text (range : TextRange) : String :=
  s!"[{range.start}, {range.stop})"

end TextRange

/-- A checker's coordinates: lines and columns from one, the last column included. -/
structure Span where
  startLine : Int64
  startColumn : Int64
  endLine : Int64
  endColumn : Int64
  deriving DecidableEq

/-- Why a span has no range in a document. -/
inductive PlacementError where
  /-- A line number below one. -/
  | invalidLine (line : Int64)
  /-- A line number past the last line. -/
  | lineOutOfRange (line : Int64) (lineCount : Nat)
  /-- Offsets outside the document, or beyond signed 64-bit numbers. -/
  | outOfBounds (start stop : Int) (length : Nat)
  /-- A start after the end. -/
  | inverted (start stop : Int)
  deriving DecidableEq

/-- What the log says about a span that cannot be placed. -/
def PlacementError.message : PlacementError → String
  | .invalidLine line => s!"line {line.toInt} is not a valid 1-based line"
  | .lineOutOfRange line lineCount =>
    s!"line {line.toInt} is past the end of the document ({lineCount} lines)"
  | .outOfBounds start stop length =>
    s!"range {start}..{stop} lies outside the document (length {length})"
  | .inverted start stop => s!"range start {start} is after its end {stop}"

/-- An integer, if it is a signed 64-bit number. -/
def signed64? (value : Int) : Option Int :=
  if -0x8000000000000000 ≤ value ∧ value < 0x8000000000000000 then some value else none

/-- A line's start plus a column, if the start and the sum are both signed 64-bit numbers. -/
def offsetPlus? (lineStart : Nat) (column : Int) : Option Int :=
  (signed64? lineStart).bind fun start => signed64? (start + column)

namespace Span

/-- The offset at which a line starts, for a line number that counts from one. -/
def lineStart (index : LineIndex) (line : Int64) : Except PlacementError Nat :=
  if line.toInt < 1 then .error (.invalidLine line)
  else match index.lineStart? (line.toInt - 1).toNat with
    | some start => .ok start
    | none => .error (.lineOutOfRange line index.lineCount)

/-- The range that a span names. The start line is looked up before the end line, and an inverted
range is reported before one that reaches outside the document. -/
def place (span : Span) (index : LineIndex) : Except PlacementError TextRange := do
  let startLine ← lineStart index span.startLine
  let endLine ← lineStart index span.endLine
  let start? := (signed64? (span.startColumn.toInt - 1)).bind (offsetPlus? startLine)
  let stop? := offsetPlus? endLine span.endColumn.toInt
  match start?, stop? with
  | some start, some stop =>
    if start > stop then .error (.inverted start stop)
    else if 0 ≤ start ∧ 0 ≤ stop ∧ stop ≤ index.length then .ok ⟨start.toNat, stop.toNat⟩
    else .error (.outOfBounds start stop index.length)
  | _, _ => .error (.outOfBounds span.startColumn.toInt span.endColumn.toInt index.length)

end Span

end FlowCheck
