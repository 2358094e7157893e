/-!
# Documents and their lines

A document is a text together with the offsets at which its lines start. Offsets count
characters, lines and columns count from zero, and a line ends just before its newline. A text
that ends in a newline has an empty last line.
-/

namespace FlowCheck

/-- The offset of each line's first unit, for characters that are `width` units wide: zero, and the
offset after every newline. -/
def lineStarts (width : Char → Nat) (chars : List Char) : Array Nat :=
  (chars.foldl (fun (offset, starts) c =>
    let next := offset + width c
    (next, if c = '\n' then starts.push next else starts)) (0, #[0])).2

/-- The total width of a text. -/
def textWidth (width : Char → Nat) (chars : List Char) : Nat :=
  chars.foldl (fun offset c => offset + width c) 0

/-- A place in a document, both numbers counted from zero. -/
structure Position where
  line : Nat
  column : Nat
  deriving Repr, DecidableEq

/-- A text whose line starts are known. -/
structure Document where
  chars : List Char
  length : Nat := chars.length
  starts : Array Nat := lineStarts (fun _ => 1) chars
  length_eq : length = chars.length := by rfl
  starts_eq : starts = lineStarts (fun _ => 1) chars := by rfl

namespace Document

/-- The document that holds a text. -/
def ofString (text : String) : Document :=
  { chars := text.toList }

/-- The text of the document. -/
def text (doc : Document) : String :=
  String.ofList doc.chars

/-- How many lines the document has; at least one. -/
def lineCount (doc : Document) : Nat :=
  doc.starts.size

/-- The offset of a line's first character. -/
def lineStart? (doc : Document) (line : Nat) : Option Nat :=
  doc.starts[line]?

/-- The texts of the lines, without their newlines. -/
def lines (doc : Document) : List (List Char) :=
  doc.chars.splitOn '\n'

/-- The text of one line, without its newline. -/
def line? (doc : Document) (line : Nat) : Option (List Char) :=
  doc.lines[line]?

end Document

/-- How many leading entries of a sorted table are at most `offset`, given that the answer lies
between `low` and `high`. The interval is halved until it is empty. -/
def countAtMost (starts : Array Nat) (offset low high : Nat) : Nat :=
  if low < high then
    let middle := (low + high) / 2
    if starts.getD middle 0 ≤ offset then countAtMost starts offset (middle + 1) high
    else countAtMost starts offset low middle
  else low
termination_by high - low

namespace Document

/-- The line that holds an offset, and the offset's column on it. The end of the text is a
position; nothing after it is. -/
def position? (doc : Document) (offset : Nat) : Option Position :=
  if offset ≤ doc.length then
    let line := countAtMost doc.starts offset 0 doc.starts.size - 1
    some ⟨line, offset - doc.starts.getD line 0⟩
  else none

end Document

end FlowCheck
