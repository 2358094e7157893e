import FlowCheck.Yaml.Cursor
import FlowCheck.Yaml.Printer
import Mathlib.Algebra.GroupWithZero.Nat

/-! # Places in a written text

A text that is written has neither carriage returns nor next-line characters, so its breaks are
unified from the start. What a reader has passed over is told by the place behind it.
-/

namespace FlowCheck.Yaml

namespace Mark

/-- The place behind a text. -/
def past (mark : Mark) (text : List Char) : Mark :=
  text.foldl Mark.after mark

@[simp] theorem past_nil (mark : Mark) : mark.past [] = mark := rfl

@[simp] theorem past_cons (mark : Mark) (c : Char) (text : List Char) :
    mark.past (c :: text) = (mark.after c).past text := rfl

/-- A place is past two texts when it is past one after the other. -/
theorem past_append (mark : Mark) (text more : List Char) :
    mark.past (text ++ more) = (mark.past text).past more :=
  List.foldl_append

/-- A line break leads to the first column. -/
theorem column_after_of_break {c : Char} (ends : isBreak c = true) (mark : Mark) :
    (mark.after c).column = 0 := by
  simp [after, ends]

/-- Any other character leads one column on. -/
theorem column_after {c : Char} (inside : isBreak c = false) (mark : Mark) :
    (mark.after c).column = mark.column + 1 := by
  simp [after, inside]

/-- Only a line break leads to the first column. -/
theorem column_after_pos {c : Char} (inside : isBreak c = false) (mark : Mark) :
    0 < (mark.after c).column := by
  rw [column_after inside]
  exact Nat.succ_pos _

private theorem line_le_after (mark : Mark) (c : Char) : mark.line ≤ (mark.after c).line := by
  unfold after
  split <;> simp

/-- No text leads to an earlier line. -/
theorem line_le_past (mark : Mark) (text : List Char) : mark.line ≤ (mark.past text).line := by
  induction text generalizing mark with
  | nil => exact Nat.le_refl _
  | cons c rest ih => exact Nat.le_trans (mark.line_le_after c) (ih (mark.after c))

/-- A text on one line leads on by as many columns as it has characters. -/
theorem column_past {text : List Char} (inside : ∀ c ∈ text, isBreak c = false) (mark : Mark) :
    (mark.past text).column = mark.column + text.length := by
  induction text generalizing mark with
  | nil => rfl
  | cons c rest ih =>
      rw [List.forall_mem_cons] at inside
      rw [past_cons, ih inside.2, column_after inside.1, List.length_cons]
      omega

/-- A text on one line leads to no other line. -/
theorem line_past {text : List Char} (inside : ∀ c ∈ text, isBreak c = false) (mark : Mark) :
    (mark.past text).line = mark.line := by
  induction text generalizing mark with
  | nil => rfl
  | cons c rest ih =>
      rw [List.forall_mem_cons] at inside
      rw [past_cons, ih inside.2, after, inside.1]
      rfl

/-- A text leads on by as many bytes as it takes. -/
theorem index_past (text : List Char) (mark : Mark) :
    (mark.past text).index = mark.index + (text.map Char.utf8Size).sum := by
  induction text generalizing mark with
  | nil => rfl
  | cons c rest ih =>
      have here : (mark.after c).index = mark.index + c.utf8Size := by
        unfold after
        split <;> rfl
      rw [past_cons, ih, here, List.map_cons, List.sum_cons, Nat.add_assoc]

/-- Behind a newline a line begins, further down than whatever stands before it. -/
theorem past_newline (mark : Mark) (text : List Char) :
    (mark.past (text ++ ['\n'])).column = 0 ∧ mark.line < (mark.past (text ++ ['\n'])).line := by
  have line := mark.line_le_past text
  rw [past_append]
  exact ⟨rfl, Nat.lt_succ_of_le line⟩

end Mark

/-- A cursor behind a text. -/
theorem Cursor.skip_length (text rest : List Char) (mark : Mark) :
    (⟨text ++ rest, mark⟩ : Cursor).skip text.length = ⟨rest, mark.past text⟩ := by
  induction text generalizing mark with
  | nil => rfl
  | cons c text ih => exact ih (mark.after c)

/-! ## Characters -/

/-- A character that is written as it is: it may stand in a text, and is not among the breaks that
are unified. -/
theorem allowed_of_printable {c : Char} (printable : isPrintable c = true) :
    isAllowed c = true ∧ c ≠ '\r' ∧ c ≠ '\u0085' := by
  refine ⟨?_, ?_, ?_⟩
  · simp only [isPrintable, isAllowed, Bool.or_eq_true, Bool.and_eq_true, decide_eq_true_iff]
      at printable ⊢
    omega
  · rintro rfl
    exact absurd printable (by decide)
  · rintro rfl
    exact absurd printable (by decide)

/-- The blank characters are the space and the tabulator. -/
theorem isBlank_eq_false_iff {c : Char} : isBlank c = false ↔ c ≠ ' ' ∧ c ≠ '\t' := by
  simp [isBlank]

/-- Of the characters that are written as they are, only the space is blank. -/
theorem isBlank_eq_false_of_printable {c : Char} (printable : isPrintable c = true)
    (noSpace : c ≠ ' ') : isBlank c = false := by
  refine isBlank_eq_false_iff.mpr ⟨noSpace, ?_⟩
  rintro rfl
  exact absurd printable (by decide)

/-- A text whose only line breaks are newlines has none to unify. -/
theorem unifyBreaks_eq_self {text : List Char}
    (plain : ∀ c ∈ text, c ≠ '\r' ∧ c ≠ '\u0085') : unifyBreaks text = text := by
  induction text with
  | nil => rfl
  | cons c rest ih =>
      obtain ⟨⟨noReturn, noNextLine⟩, others⟩ := List.forall_mem_cons.mp plain
      unfold unifyBreaks
      split
      · contradiction
      next returned => exact absurd (List.cons.inj returned).1 noReturn
      next same =>
        obtain ⟨rfl, rfl⟩ := List.cons.inj same
        simp [noReturn, noNextLine, ih others]

/-- What stands in front of the first character of a line. -/
def margin (fresh : Bool) : List Char :=
  if fresh then lineIndent else []

/-- A character in a line is written behind the margin of its line. -/
theorem indentLines_cons {c : Char} (inside : isBreak c = false) (fresh : Bool) (rest : List Char) :
    indentLines fresh (c :: rest) = margin fresh ++ c :: indentLines false rest := by
  cases fresh <;> simp [indentLines, inside, margin]

/-- A character at which a gap between tokens ends. -/
def BeginsToken (c : Char) : Prop :=
  isBlank c = false ∧ isBreak c = false ∧ c ≠ '#' ∧ c ≠ byteOrderMark

instance (c : Char) : Decidable (BeginsToken c) :=
  inferInstanceAs (Decidable (_ ∧ _ ∧ _ ∧ _))

/-- What comes after a line: nothing, or a character that begins the next one. -/
def StartsLine (rest : List Char) : Prop :=
  ∀ c ∈ rest.head?, BeginsToken c

end FlowCheck.Yaml
