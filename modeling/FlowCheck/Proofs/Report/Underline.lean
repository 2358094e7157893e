import FlowCheck.Proofs.Document.LineTexts
import FlowCheck.Proofs.Document.Position
import FlowCheck.Proofs.Report.InPlace
import Mathlib.Data.List.DropRight

/-! # Carets below the text

A snippet shows the line that a range starts on, and carets below it. There are as many as the range
has characters on that line, but at least one, and each stands below its own character. Carriage
returns at the end of a line are characters of it like any other, but they are not shown: a range
that goes on into them has carets behind the end of the text.
-/

namespace FlowCheck

namespace Document

variable {doc : Document} {line offset : Nat} {text : List Char} {position : Position}
  {range : TextRange}

/-- Whether an offset is that of a character on a line. The newline behind a line is not on it. -/
def isOnLine (doc : Document) (line offset : Nat) : Bool :=
  (doc.position? offset).any (·.line = line) && doc.chars[offset]?.any (· ≠ '\n')

/-- An offset is that of a character which is shown with its line. -/
def Displays (doc : Document) (offset : Nat) : Prop :=
  ∃ position text, doc.position? offset = some position ∧
    doc.line? position.line = some text ∧ position.column < (trimReturns text).length

/-- A range goes on behind the line that it starts on. -/
def Continues (doc : Document) (range : TextRange) : Prop :=
  ∃ near far, doc.position? range.start = some near ∧ doc.position? range.stop = some far ∧
    near.line < far.line

/-! ## Characters on a line -/

private theorem getElem?_of_line? (found : doc.line? line = some text) {column : Nat}
    (onLine : column < text.length) :
    doc.chars[(doc.before line).length + column]? = text[column]? := by
  obtain ⟨rest, cut, -⟩ := exists_chars_eq found
  rw [cut, List.getElem?_append_right (Nat.le_add_right ..), Nat.add_sub_cancel_left,
    List.getElem?_append_left onLine]

/-- Behind a line stands a newline, or the text ends there. -/
theorem getElem?_behind_line? (found : doc.line? line = some text) :
    doc.chars[(doc.before line).length + text.length]?.any (· ≠ '\n') = false := by
  obtain ⟨rest, cut, last | ⟨more, behind, newline⟩⟩ := exists_chars_eq found
  · simp [cut, last.2]
  · simp [cut, ← newline]

/-- The offsets on a line go from its start on, as far as its text does. -/
theorem isOnLine_iff (found : doc.line? line = some text) :
    doc.isOnLine line offset = true ↔
      (doc.before line).length ≤ offset ∧ offset < (doc.before line).length + text.length := by
  rw [isOnLine, Bool.and_eq_true]
  constructor
  · intro both
    obtain ⟨onLine, isChar⟩ := both
    obtain ⟨position, isPosition, same⟩ := (Option.any_eq_true _ _).mp onLine
    obtain ⟨other, isOther, column, rfl⟩ := position?_eq_some_iff.mp isPosition
    obtain rfl := of_decide_eq_true same
    obtain rfl := Option.some.inj (found.symm.trans isOther)
    refine ⟨Nat.le_add_right .., Nat.add_lt_add_left (Nat.lt_of_le_of_ne column ?_) _⟩
    intro atEnd
    rw [atEnd, getElem?_behind_line? found] at isChar
    cases isChar
  · intro both
    obtain ⟨column, rfl⟩ := Nat.exists_eq_add_of_le both.1
    have onLine : column < text.length := Nat.lt_of_add_lt_add_left both.2
    have isPosition : doc.position? ((doc.before line).length + column) = some ⟨line, column⟩ :=
      position?_eq_some_iff.mpr ⟨text, found, Nat.le_of_lt onLine, rfl⟩
    have noNewline : text[column] ≠ '\n' := by
      intro newline
      exact newline_notMem_of_line? found (newline ▸ List.getElem_mem onLine)
    rw [isPosition, getElem?_of_line? found onLine, List.getElem?_eq_getElem onLine]
    simpa using noNewline

/-- Of a run of numbers, those in an interval that begins before the run are the first ones. -/
theorem countP_range'_eq {chosen : Nat → Bool} {first last start : Nat}
    (interval : ∀ n, chosen n = true ↔ first ≤ n ∧ n < last) (begun : first ≤ start)
    (length : Nat) : (List.range' start length).countP chosen = min length (last - start) := by
  have split : List.range' start length =
      List.range' start (min length (last - start)) ++
        List.range' (start + min length (last - start)) (length - min length (last - start)) := by
    rw [List.range'_append_1, Nat.add_sub_cancel' (Nat.min_le_left ..)]
  have inside : (List.range' start (min length (last - start))).countP chosen =
      min length (last - start) := by
    rw [List.countP_eq_length.mpr, List.length_range']
    intro n member
    rw [List.mem_range'_1] at member
    apply (interval n).mpr
    omega
  have outside : (List.range' (start + min length (last - start))
      (length - min length (last - start))).countP chosen = 0 := by
    apply List.countP_eq_zero.mpr
    intro n member
    rw [List.mem_range'_1] at member
    rw [interval]
    omega
  rw [split, List.countP_append, inside, outside, Nat.add_zero]

/-- A range has as many characters on its first line as it has offsets, or as the line has
characters left. -/
theorem countP_isOnLine (isStart : doc.position? range.start = some position)
    (isLine : doc.line? position.line = some text) :
    (List.range' range.start range.length).countP (doc.isOnLine position.line) =
      min range.length (text.length - position.column) := by
  obtain ⟨other, isOther, -, reached⟩ := position?_eq_some_iff.mp isStart
  obtain rfl := Option.some.inj (isLine.symm.trans isOther)
  rw [countP_range'_eq (fun _ => isOnLine_iff isLine) (by omega)]
  congr 1
  omega

/-! ## What is shown of a line -/

private theorem trimReturns_eq (text : List Char) : trimReturns text = text.rdropWhile (· = '\r') :=
  rfl

/-- Trimming a line leaves its beginning. -/
theorem trimReturns_prefix (text : List Char) : trimReturns text <+: text :=
  List.rdropWhile_prefix _ text

/-- A line is what is shown of it and the carriage returns behind that. -/
theorem length_trimReturns (text : List Char) :
    (trimReturns text).length + (text.rtakeWhile (· = '\r')).length = text.length := by
  rw [trimReturns_eq, ← List.length_append, List.rdropWhile_append_rtakeWhile]

/-- What goes on behind its line holds all the characters that are left on it. -/
theorem Continues.length_le (continues : doc.Continues range)
    (isStart : doc.position? range.start = some position)
    (isLine : doc.line? position.line = some text) :
    text.length - position.column ≤ range.length := by
  obtain ⟨near, far, isNear, isFar, earlier⟩ := continues
  obtain rfl := Option.some.inj (isStart.symm.trans isNear)
  obtain ⟨other, isOther, -, reached⟩ := position?_eq_some_iff.mp isStart
  obtain rfl := Option.some.inj (isLine.symm.trans isOther)
  obtain ⟨-, -, -, stop⟩ := position?_eq_some_iff.mp isFar
  have later := doc.length_before_le (show position.line + 1 ≤ far.line from earlier)
  rw [length_before_succ isLine] at later
  rw [TextRange.length]
  omega

end Document

/-! ## Snippets -/

/-- What stands in front of the text on a line of a snippet, around a number or blanks. -/
def gutter (content : List Char) : List Char :=
  [' '] ++ content ++ [' ', '|', ' ']

namespace Report

variable {report : Report} {range : TextRange} {position : Position} {text : List Char}

/-- A snippet without colours has three lines. The second is the code line: it shows, behind its
number from one on, the line that the range starts on, without the carriage returns at its end. The
third holds blanks and then a run of carets. -/
structure Underlines (report : Report) (range : TextRange) (position : Position)
    (text code blank carets : List Char) : Prop where
  written : ∃ above, '\n' ∉ above ∧
    report.snippet false range = above ++ '\n' :: (code ++ '\n' :: (blank ++ carets ++ ['\n']))
  separate : '\n' ∉ code ∧ '\n' ∉ blank
  isStart : report.document.position? range.start = some position
  isLine : report.document.line? position.line = some text
  shown : code = gutter (Nat.toDigits 10 (position.line + 1)) ++ trimReturns text
  run : '^' ∉ blank ∧ ∀ c ∈ carets, c = '^'

private theorem newline_notMem_gutter {content : List Char} (single : '\n' ∉ content) :
    '\n' ∉ gutter content := by
  simpa [gutter] using single

/-- No number is written with a newline. -/
theorem newline_notMem_toDigits (n : Nat) : '\n' ∉ Nat.toDigits 10 n := by
  intro inside
  cases Nat.isDigit_of_mem_toDigits (by decide) (by decide) inside

/-- How a snippet is written, with blanks below the number and below what is in front of the range.
-/
theorem underlines_of_position? (isStart : report.document.position? range.start = some position)
    (isLine : report.document.line? position.line = some text) :
    let number := Nat.toDigits 10 (position.line + 1)
    report.Underlines range position text (gutter number ++ trimReturns text)
      (gutter (List.replicate number.length ' ') ++ List.replicate position.column ' ')
      (List.replicate (underlineWidth text.length position.column range) '^') := by
  intro number
  have blanks : ∀ {c : Char} {width : Nat}, c ≠ ' ' → c ∉ List.replicate width ' ' := by
    intro c width marked inside
    exact marked (List.eq_of_mem_replicate inside)
  constructor
  · refine ⟨[' '] ++ List.replicate number.length ' ' ++ [' ', '|'], ?_, ?_⟩
    · simp
    · rw [snippet, isStart]
      dsimp only
      rw [isLine]
      simp [number, gutter, painted]
  · constructor
    · rw [List.mem_append, not_or]
      refine ⟨newline_notMem_gutter (newline_notMem_toDigits _), ?_⟩
      intro inside
      apply Document.newline_notMem_of_line? isLine
      exact (Document.trimReturns_prefix text).subset inside
    · rw [List.mem_append, not_or]
      exact ⟨newline_notMem_gutter (blanks (by decide)), blanks (by decide)⟩
  · exact isStart
  · exact isLine
  · rfl
  · constructor
    · simp [gutter]
    · intro c inside
      exact List.eq_of_mem_replicate inside

/-- **The carets stand below the characters of the range.** The report for people holds a snippet
for each diagnostic that starts in the text, wherever it ends. Its code line has the number of the
line that the diagnostic starts on. Below are as many carets as the range has characters on that
line, or one if there are none, and a caret that has a character above it has the character of the
range that it stands for. -/
theorem carets_below_characters {report : Report} {diagnostic : Diagnostic}
    (member : diagnostic ∈ report.diagnostics)
    (inText : diagnostic.range.start ≤ report.document.length) :
    report.Tells false diagnostic (report.human false).toList ∧
    ∃ position text code blank carets,
      report.Underlines diagnostic.range position text code blank carets ∧
      carets.length = max 1 ((List.range' diagnostic.range.start diagnostic.range.length).countP
        (report.document.isOnLine position.line)) ∧
      blank.length = (gutter (Nat.toDigits 10 (position.line + 1))).length + position.column ∧
      ∀ k < carets.length, ∀ c, code[blank.length + k]? = some c →
        report.document.position? (diagnostic.range.start + k) =
            some ⟨position.line, position.column + k⟩ ∧
          report.document.chars[diagnostic.range.start + k]? = some c := by
  refine ⟨tells_human false member, ?_⟩
  obtain ⟨position, text, isStart, isLine⟩ := Document.holds_of_le inText
  have width : (gutter (List.replicate (Nat.toDigits 10 (position.line + 1)).length ' ')).length =
      (gutter (Nat.toDigits 10 (position.line + 1))).length := by
    simp [gutter]
  refine ⟨position, text, _, _, _, underlines_of_position? isStart isLine, ?_, ?_, ?_⟩
  · rw [List.length_replicate, underlineWidth, Document.countP_isOnLine isStart isLine]
  · rw [List.length_append, List.length_replicate, width]
  · intro k _ c shown
    rw [List.length_append, List.length_replicate, width, Nat.add_assoc,
      List.getElem?_append_right (Nat.le_add_right ..), Nat.add_sub_cancel_left] at shown
    -- What is shown is the beginning of the line, so the column is one of the line as well.
    obtain ⟨returns, whole⟩ := Document.trimReturns_prefix text
    have inLine : text[position.column + k]? = some c := by
      obtain ⟨inShown, -⟩ := List.getElem?_eq_some_iff.mp shown
      rw [← whole, List.getElem?_append_left inShown, shown]
    obtain ⟨onLine, -⟩ := List.getElem?_eq_some_iff.mp inLine
    obtain ⟨other, isOther, -, reached⟩ := Document.position?_eq_some_iff.mp isStart
    obtain rfl := Option.some.inj (isLine.symm.trans isOther)
    have isOffset : diagnostic.range.start + k =
        (report.document.before position.line).length + (position.column + k) := by
      omega
    rw [isOffset]
    constructor
    · exact Document.position?_eq_some_iff.mpr ⟨text, isLine, Nat.le_of_lt onLine, rfl⟩
    · rw [Document.getElem?_of_line? isLine onLine, inLine]

/-- A text whose tenth line ends in a carriage return and is not the last. -/
def tenthLine : Document where
  chars := List.replicate 9 '\n' ++ ['a', 'b', '\r', '\n', 'c']

/-- On the tenth line a range over the last shown character and the carriage return behind it has
two carets, the first of them below that character. -/
theorem carets_below_characters_on_tenth_line :
    let diagnostic : Diagnostic := ⟨⟨10, 14⟩, .error, "b"⟩
    let report : Report := ⟨"a.js", tenthLine, [diagnostic]⟩
    diagnostic ∈ report.diagnostics ∧ 10 ≤ report.document.length ∧
      ∃ text code blank carets, report.Underlines ⟨10, 14⟩ ⟨9, 1⟩ text code blank carets ∧
        carets.length = 2 ∧ blank.length = 7 ∧ code = " 10 | ab".toList ∧
        ∀ c, code[7]? = some c → tenthLine.chars[10]? = some c := by
  intro diagnostic report
  have member : diagnostic ∈ report.diagnostics := List.mem_singleton.mpr rfl
  have inText : 10 ≤ report.document.length := by decide
  obtain ⟨-, position, text, code, blank, carets, underlines, count, left, below⟩ :=
    carets_below_characters member inText
  have isStart : report.document.position? 10 = some ⟨9, 1⟩ := by decide +kernel
  obtain rfl := Option.some.inj (isStart.symm.trans underlines.isStart)
  have isLine : report.document.line? 9 = some ['a', 'b', '\r'] := by decide +kernel
  obtain rfl := Option.some.inj (isLine.symm.trans underlines.isLine)
  have two : carets.length = 2 := count.trans (by decide +kernel)
  have seven : blank.length = 7 := left.trans (by decide +kernel)
  refine ⟨member, inText, _, code, blank, carets, underlines, two, seven, ?_, ?_⟩
  · exact underlines.shown.trans (by decide +kernel)
  · intro c shown
    rw [← seven] at shown
    exact (below 0 (by omega) c shown).2

/-- **A run of carets ends with the text shown above it unless the range goes on into carriage
returns at the end of the line.** These are counted with the line but not shown, so a range that
goes on behind its line has a caret behind the text for each of them. -/
theorem underline_ends_iff (report : Report) (range : TextRange)
    (displayed : report.document.Displays range.start) :
    ∃ position text start code blank carets,
      report.Underlines range position text code blank carets ∧
      report.document.lineStart? position.line = some start ∧
      let returns := text.rtakeWhile (· = '\r')
      (blank.length + carets.length ≤ code.length ↔
        returns = [] ∨ range.stop ≤ start + (trimReturns text).length) ∧
      (report.document.Continues range →
        blank.length + carets.length = code.length + returns.length) := by
  obtain ⟨position, text, isStart, isLine, inShown⟩ := displayed
  obtain ⟨other, isOther, -, reached⟩ := Document.position?_eq_some_iff.mp isStart
  obtain rfl := Option.some.inj (isLine.symm.trans isOther)
  refine ⟨position, text, _, _, _, _, underlines_of_position? isStart isLine,
    Document.lineStart?_of_line? isLine, ?_⟩
  intro returns
  have whole : (trimReturns text).length + returns.length = text.length :=
    Document.length_trimReturns text
  have extent : range.length = range.stop - range.start := rfl
  simp only [List.length_append, List.length_replicate, underlineWidth, gutter]
  constructor
  · rw [← List.length_eq_zero_iff]
    omega
  · intro continues
    have toEnd := continues.length_le isStart isLine
    omega

/-- A range that ends between two carriage returns has one caret behind the text. -/
theorem underline_ends_iff_between_returns :
    let document : Document := { chars := ['a', 'b', '\r', '\r', '\n', 'c'] }
    let report : Report := ⟨"a.js", document, []⟩
    document.Displays 1 ∧
      ∃ text code blank carets, report.Underlines ⟨1, 3⟩ ⟨0, 1⟩ text code blank carets ∧
        ¬ blank.length + carets.length ≤ code.length := by
  intro document report
  have isStart : document.position? 1 = some ⟨0, 1⟩ := by decide +kernel
  have isLine : document.line? 0 = some ['a', 'b', '\r', '\r'] := by decide +kernel
  have displayed : document.Displays 1 := ⟨_, _, isStart, isLine, by decide⟩
  obtain ⟨position, text, start, code, blank, carets, underlines, begins, within, -⟩ :=
    underline_ends_iff report ⟨1, 3⟩ displayed
  obtain rfl := Option.some.inj (isStart.symm.trans underlines.isStart)
  obtain rfl := Option.some.inj (isLine.symm.trans underlines.isLine)
  obtain rfl : 0 = start := Option.some.inj begins
  refine ⟨displayed, _, code, blank, carets, underlines, ?_⟩
  rw [within]
  decide

/-- Where lines end in a carriage return and a newline, a range that goes on behind its line has a
caret behind the text. -/
theorem underline_beyond_the_text :
    let document : Document := { chars := ['a', 'b', 'c', '\r', '\n', 'd', 'e', 'f', '\n'] }
    let report : Report := ⟨"a.js", document, []⟩
    6 ≤ document.length ∧ document.Displays 1 ∧ document.Continues ⟨1, 6⟩ ∧
      ∃ text, report.Underlines ⟨1, 6⟩ ⟨0, 1⟩ text " 1 | abc".toList "   |  ".toList "^^^".toList ∧
        " 1 | abc".length < "   |  ".length + "^^^".length := by
  intro document report
  have isStart : document.position? 1 = some ⟨0, 1⟩ := by decide +kernel
  have isStop : document.position? 6 = some ⟨1, 1⟩ := by decide +kernel
  have isLine : document.line? 0 = some ['a', 'b', 'c', '\r'] := by decide +kernel
  have underlines : report.Underlines ⟨1, 6⟩ ⟨0, 1⟩ _ _ _ _ :=
    underlines_of_position? isStart isLine
  exact ⟨by decide, ⟨_, _, isStart, isLine, by decide⟩, ⟨_, _, isStart, isStop, by decide⟩, _,
    underlines, by decide⟩

end Report

end FlowCheck
