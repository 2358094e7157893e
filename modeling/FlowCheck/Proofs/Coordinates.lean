import FlowCheck.Proofs.Document.Position
import FlowCheck.Proofs.Placement
import FlowCheck.Report
import Mathlib.Tactic.Set

/-! # Coordinates and the text that they name

A checker counts lines and columns from one and includes the last column, a host has a half-open
range of offsets, and a report locates both ends of that range by counting from one again. These
agree: the locations of a range are the coordinates that it is placed from, but for the last column,
which lies one behind. And the range holds the characters that the coordinates name, read line by
line.
-/

namespace FlowCheck

namespace Document

variable {doc : Document} {first last : List Char} {start stop : Nat} {near far : Position}

/-- The text of a line, for a line number that counts from one. -/
def lineOf? (doc : Document) (line : Int64) : Option (List Char) :=
  if 1 ≤ line.toInt then doc.line? (line.toInt - 1).toNat else none

/-- The line that a number from one names. -/
theorem lineOf?_eq_some_iff {line : Int64} {text : List Char} :
    doc.lineOf? line = some text ↔
      ∃ place : Nat, line.toInt = place + 1 ∧ doc.line? place = some text := by
  rw [lineOf?, Option.ite_none_right_eq_some]
  constructor
  · rintro ⟨positive, found⟩
    exact ⟨_, by omega, found⟩
  · rintro ⟨place, number, found⟩
    have same : (line.toInt - 1).toNat = place := by omega
    exact ⟨by omega, same ▸ found⟩

/-- Where the line begins that a number from one names. -/
theorem startOf?_eq_some_iff {line : Int64} :
    doc.lineIndex.startOf? line = some start ↔
      ∃ (place : Nat) (text : List Char), line.toInt = place + 1 ∧ doc.line? place = some text ∧
        start = (doc.before place).length := by
  rw [LineIndex.startOf?, Option.ite_none_right_eq_some]
  constructor
  · rintro ⟨positive, found⟩
    obtain ⟨text, isLine, start⟩ := line?_of_lineStart? found
    exact ⟨_, text, by omega, isLine, start⟩
  · rintro ⟨place, text, number, isLine, rfl⟩
    have same : (line.toInt - 1).toNat = place := by omega
    rw [same]
    exact ⟨by omega, lineStart?_of_line? isLine⟩

/-! ## The text of a range -/

/-- Between two positions of one line stand the characters from one column to the other. -/
theorem extract_of_line_eq (isNear : doc.position? start = some near)
    (isFar : doc.position? stop = some far) (same : near.line = far.line)
    (isFirst : doc.line? near.line = some first) (ordered : start ≤ stop) :
    doc.chars.extract start stop = first.extract near.column far.column := by
  obtain ⟨text, isLine, -, rfl⟩ := position?_eq_some_iff.mp isNear
  obtain rfl := Option.some.inj (isFirst.symm.trans isLine)
  obtain ⟨other, isOther, onLine, rfl⟩ := position?_eq_some_iff.mp isFar
  rw [← same] at isOther ordered ⊢
  obtain rfl := Option.some.inj (isFirst.symm.trans isOther)
  obtain ⟨rest, cut, -⟩ := exists_chars_eq isLine
  rw [cut, List.extract_eq_take_drop, List.extract_eq_take_drop, ← List.drop_drop, List.drop_left,
    List.drop_append_of_le_length (by omega), Nat.add_sub_add_left,
    List.take_append_of_le_length (by rw [List.length_drop]; omega)]

/-- Between two positions of different lines stand the rest of the first line, the lines between,
and the beginning of the last line. -/
theorem extract_of_line_lt (isNear : doc.position? start = some near)
    (isFar : doc.position? stop = some far) (earlier : near.line < far.line)
    (isFirst : doc.line? near.line = some first) (isLast : doc.line? far.line = some last) :
    doc.chars.extract start stop =
      first.drop near.column ++ '\n' :: (terminated (doc.lines.extract (near.line + 1) far.line) ++
        last.take far.column) := by
  obtain ⟨text, isLine, onFirst, rfl⟩ := position?_eq_some_iff.mp isNear
  obtain rfl := Option.some.inj (isFirst.symm.trans isLine)
  obtain ⟨other, isOther, onLast, rfl⟩ := position?_eq_some_iff.mp isFar
  obtain rfl := Option.some.inj (isLast.symm.trans isOther)
  obtain ⟨rest, cut, -⟩ := exists_chars_eq isOther
  have between := before_append doc (show near.line + 1 ≤ far.line from earlier)
  rw [before_succ isLine] at between
  set lines := terminated (doc.lines.extract (near.line + 1) far.line)
  have split : ∀ (line : List Char) (column : Nat) (others : List Char),
      line ++ others = line.take column ++ (line.drop column ++ others) := by
    intro line column others
    rw [← List.append_assoc, List.take_append_drop]
  have whole : doc.chars = (doc.before near.line ++ first.take near.column) ++
      ((first.drop near.column ++ '\n' :: (lines ++ last.take far.column)) ++
        (last.drop far.column ++ rest)) := by
    rw [cut, between, split last far.column]
    simp only [List.append_assoc, List.cons_append, List.nil_append]
    rw [split first near.column]
  have extent : (doc.before near.line ++ first.take near.column).length +
      (first.drop near.column ++ '\n' :: (lines ++ last.take far.column)).length =
        (doc.before far.line).length + far.column := by
    rw [between]
    simp only [List.length_append, List.length_cons, List.length_take, List.length_drop,
      List.length_nil]
    omega
  have inFirst : (doc.before near.line ++ first.take near.column).length =
      (doc.before near.line).length + near.column := by
    rw [List.length_append, List.length_take_of_le onFirst]
  rw [whole, ← inFirst, ← extent]
  exact extract_append ..

end Document

namespace Span

variable {span : Span} {doc : Document} {first last : List Char} {range : TextRange}

/-- A span stays on its lines: it starts at a character of the first one or just behind it, and ends
with a character of the last one or just before it. -/
structure StaysOn (span : Span) (doc : Document) (first last : List Char) : Prop where
  firstLine : doc.lineOf? span.startLine = some first
  lastLine : doc.lineOf? span.endLine = some last
  startColumn : 1 ≤ span.startColumn.toInt ∧ span.startColumn.toInt ≤ first.length + 1
  endColumn : 0 ≤ span.endColumn.toInt ∧ span.endColumn.toInt ≤ last.length

/-- A span has the numbers of two locations, where the second is the one behind its end. -/
structure Spells (span : Span) (start stop : Location) : Prop where
  startLine : span.startLine.toInt = start.line
  startColumn : span.startColumn.toInt = start.column
  endLine : span.endLine.toInt = stop.line
  endColumn : span.endColumn.toInt = stop.column - 1

/-- A span has the numbers of two positions, which count from zero. -/
def Points (span : Span) (near far : Position) : Prop :=
  span.Spells ⟨near.line + 1, near.column + 1⟩ ⟨far.line + 1, far.column + 1⟩

/-- A span that has the numbers of two positions in order is placed between them. -/
theorem Points.place_eq {near far : Position} (points : span.Points near far)
    (bounded : doc.length < 0x8000000000000000) {start stop : Nat}
    (isNear : doc.position? start = some near) (isFar : doc.position? stop = some far)
    (ordered : start ≤ stop) : span.place doc.lineIndex = .ok ⟨start, stop⟩ := by
  obtain ⟨startLine, startColumn, endLine, endColumn⟩ := points
  obtain ⟨first, isFirst, -, rfl⟩ := Document.position?_eq_some_iff.mp isNear
  obtain ⟨last, isLast, onLast, rfl⟩ := Document.position?_eq_some_iff.mp isFar
  have inText := Document.length_before_add_le isLast
  refine place_of_names (Document.lineIndex_isSigned bounded)
    ⟨_, _, Document.startOf?_eq_some_iff.mpr ⟨near.line, first, startLine, isFirst, rfl⟩,
      Document.startOf?_eq_some_iff.mpr ⟨far.line, last, endLine, isLast, rfl⟩, ?_, ?_, ordered, ?_⟩
  · unfold startOffset
    dsimp only at startColumn ⊢
    omega
  · unfold stopOffset
    dsimp only at endColumn ⊢
    omega
  · change _ ≤ doc.length
    dsimp only
    omega

/-- Where a span that stays on its lines is placed, both ends have the positions that it names. -/
theorem StaysOn.points (stays : span.StaysOn doc first last)
    (placed : span.place doc.lineIndex = .ok range) :
    ∃ near far, span.Points near far ∧ doc.position? range.start = some near ∧
      doc.position? range.stop = some far ∧ doc.line? near.line = some first ∧
        doc.line? far.line = some last := by
  obtain ⟨firstLine, lastLine, startColumn, endColumn⟩ := stays
  obtain ⟨near, startLine, isFirst⟩ := Document.lineOf?_eq_some_iff.mp firstLine
  obtain ⟨far, endLine, isLast⟩ := Document.lineOf?_eq_some_iff.mp lastLine
  obtain ⟨_, _, foundFirst, foundLast, start, stop, -⟩ := names_of_place placed
  obtain rfl := Option.some.inj (foundFirst.symm.trans
    (Document.startOf?_eq_some_iff.mpr ⟨near, first, startLine, isFirst, rfl⟩))
  obtain rfl := Option.some.inj (foundLast.symm.trans
    (Document.startOf?_eq_some_iff.mpr ⟨far, last, endLine, isLast, rfl⟩))
  unfold startOffset at start
  unfold stopOffset at stop
  refine ⟨⟨near, (span.startColumn.toInt - 1).toNat⟩, ⟨far, span.endColumn.toInt.toNat⟩,
    ⟨startLine, ?_, endLine, ?_⟩, ?_, ?_, isFirst, isLast⟩
  · dsimp only
    omega
  · dsimp only
    omega
  · exact Document.position?_eq_some_iff.mpr ⟨first, isFirst, by dsimp only; omega, by
      dsimp only; omega⟩
  · exact Document.position?_eq_some_iff.mpr ⟨last, isLast, by dsimp only; omega, by
      dsimp only; omega⟩

/-- Every two positions have a span with their numbers, if the text is short enough for these to be
signed 64-bit numbers. -/
theorem exists_points {start stop : Nat} {near far : Position}
    (bounded : doc.length + 1 < 0x8000000000000000) (isNear : doc.position? start = some near)
    (isFar : doc.position? stop = some far) : ∃ span : Span, span.Points near far := by
  have numbers : ∀ {offset position}, doc.position? offset = some position →
      position.line + 1 < 0x8000000000000000 ∧ position.column + 1 < 0x8000000000000000 := by
    intro offset position isPosition
    obtain ⟨text, isLine, onLine, -⟩ := Document.position?_eq_some_iff.mp isPosition
    have inText := Document.length_before_add_le isLine
    have earlier := Document.line_le_length_before isLine
    omega
  have exact : ∀ number : Int, -1 ≤ number → number < 0x8000000000000000 →
      (Int64.ofInt number).toInt = number :=
    fun number above below => Int64.toInt_ofInt_of_le (by omega) (by omega)
  have nearNumbers := numbers isNear
  have farNumbers := numbers isFar
  refine ⟨⟨.ofInt (near.line + 1), .ofInt (near.column + 1), .ofInt (far.line + 1),
    .ofInt far.column⟩, ?_, ?_, ?_, ?_⟩ <;> dsimp only
  all_goals rw [exact _ (by omega) (by omega)]
  all_goals omega

end Span

/-! ## Main results -/

/-- A report counts the lines and columns of a position from one. -/
theorem Report.locate_of_position? {report : Report} {offset : Nat} {position : Position}
    (isPosition : report.document.position? offset = some position) :
    report.locate offset = ⟨position.line + 1, position.column + 1⟩ := by
  rw [locate, isPosition]

/-- **Reported locations and placed ranges are inverse to each other.** The span with the numbers of
both locations of a range is placed at that range, and there is one unless a number is too large.
Conversely, the range of a span that stays on its lines has the locations with the numbers of the
span. -/
theorem locations_inverse (report : Report) :
    (∀ start stop, start ≤ stop → stop ≤ report.document.length →
      report.document.length < 0x8000000000000000 →
        (∀ span : Span, span.Spells (report.locate start) (report.locate stop) →
          span.place report.document.lineIndex = .ok ⟨start, stop⟩) ∧
        (report.document.length + 1 < 0x8000000000000000 →
          ∃ span : Span, span.Spells (report.locate start) (report.locate stop))) ∧
    ∀ (span : Span) (first last : List Char) (range : TextRange),
      span.StaysOn report.document first last →
        span.place report.document.lineIndex = .ok range →
          span.Spells (report.locate range.start) (report.locate range.stop) := by
  constructor
  · intro start stop ordered inText bounded
    obtain ⟨near, isNear⟩ := Document.exists_position (Nat.le_trans ordered inText)
    obtain ⟨far, isFar⟩ := Document.exists_position inText
    rw [Report.locate_of_position? isNear, Report.locate_of_position? isFar]
    exact ⟨fun span points => Span.Points.place_eq points bounded isNear isFar ordered,
      fun bounded => Span.exists_points bounded isNear isFar⟩
  · intro span first last range stays placed
    obtain ⟨near, far, points, isNear, isFar, -⟩ := stays.points placed
    rw [Report.locate_of_position? isNear, Report.locate_of_position? isFar]
    exact points

/-- A text with a carriage return, an empty line, and a newline at its end. -/
def fourLines : Document where
  chars := ['a', 'é', '\r', '\n', '\n', '€', 'b', '\n']

private theorem stays_on_fourLines :
    (⟨1, 2, 3, 1⟩ : Span).StaysOn fourLines ['a', 'é', '\r'] ['€', 'b'] :=
  ⟨by decide, by decide, by decide, by decide⟩

private theorem place_on_fourLines :
    (⟨1, 2, 3, 1⟩ : Span).place fourLines.lineIndex = .ok ⟨1, 6⟩ :=
  rfl

/-- One span goes from the end of a line to the end of the text, whose last line is empty. Another
one goes from the second character of the first line to the first one of the third line. -/
theorem locations_inverse_at_line_ends :
    let report : Report := ⟨"a.js", fourLines, []⟩
    (⟨1, 4, 4, 0⟩ : Span).Spells (report.locate 3) (report.locate 8) ∧
      (⟨1, 4, 4, 0⟩ : Span).place fourLines.lineIndex = .ok ⟨3, 8⟩ ∧
      (⟨1, 2, 3, 1⟩ : Span).place fourLines.lineIndex = .ok ⟨1, 6⟩ ∧
      (⟨1, 2, 3, 1⟩ : Span).Spells (report.locate 1) (report.locate 6) := by
  intro report
  have spells : (⟨1, 4, 4, 0⟩ : Span).Spells (report.locate 3) (report.locate 8) :=
    ⟨by decide +kernel, by decide +kernel, by decide +kernel, by decide +kernel⟩
  obtain ⟨there, back⟩ := locations_inverse report
  exact ⟨spells, (there 3 8 (by decide) (by decide) (by decide)).1 _ spells, place_on_fourLines,
    back _ _ _ _ stays_on_fourLines place_on_fourLines⟩

/-- **A placed range holds the characters that its coordinates name.** On one line these are the
characters from the first column to the last. On several lines they are the rest of the first line,
all lines between, and the last line up to the last column, with newlines between them. -/
theorem placed_text {span : Span} {doc : Document} {first last : List Char} {range : TextRange}
    (stays : span.StaysOn doc first last) (placed : span.place doc.lineIndex = .ok range) :
    let text := doc.chars.extract range.start range.stop
    let before := (span.startColumn.toInt - 1).toNat
    let upTo := span.endColumn.toInt.toNat
    span.startLine.toInt ≤ span.endLine.toInt ∧
      (span.startLine = span.endLine → text = first.extract before upTo) ∧
      (span.startLine.toInt < span.endLine.toInt →
        text = first.drop before ++ '\n' ::
          (terminated (doc.lines.extract span.startLine.toInt.toNat
            (span.endLine.toInt - 1).toNat) ++ last.take upTo)) := by
  obtain ⟨near, far, points, isNear, isFar, isFirst, isLast⟩ := stays.points placed
  obtain ⟨startLine, startColumn, endLine, endColumn⟩ := points
  dsimp only at startLine startColumn endLine endColumn
  have ordered : range.start ≤ range.stop := by
    obtain ⟨_, _, -, -, -, -, ordered, -⟩ := Span.names_of_place placed
    exact ordered
  have lines := Document.line_le_of_le isNear isFar ordered
  have before : (span.startColumn.toInt - 1).toNat = near.column := by omega
  have upTo : span.endColumn.toInt.toNat = far.column := by omega
  have later : span.startLine.toInt.toNat = near.line + 1 := by omega
  have beforeLast : (span.endLine.toInt - 1).toNat = far.line := by omega
  rw [before, upTo, later, beforeLast]
  refine ⟨by omega, fun same => ?_, fun earlier => ?_⟩
  · rw [same] at startLine
    exact Document.extract_of_line_eq isNear isFar (by omega) isFirst ordered
  · exact Document.extract_of_line_lt isNear isFar (by omega) isFirst isLast

/-- A range over three lines holds the rest of the first, an empty line, and a character. -/
theorem placed_text_over_three_lines :
    (⟨1, 2, 3, 1⟩ : Span).place fourLines.lineIndex = .ok ⟨1, 6⟩ ∧
      fourLines.chars.extract 1 6 = ['é', '\r'] ++ '\n' :: (terminated [[]] ++ ['€']) :=
  ⟨place_on_fourLines, (placed_text stays_on_fourLines place_on_fourLines).2.2 (by decide)⟩

end FlowCheck
