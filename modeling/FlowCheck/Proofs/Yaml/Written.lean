import FlowCheck.Proofs.Yaml.Block
import FlowCheck.Proofs.Yaml.Quoted
import FlowCheck.Yaml.Token

/-! # What a written text consists of

Whatever a text holds, what is written of it holds only characters that a text may hold, and ends
its line.
-/

namespace FlowCheck.Yaml

/-- What the form of a text tells of it. -/
theorem textForm_cases (text : List Char) :
    match TextForm.of text with
    | .plain => readsAsText text = true ∧ (TextShape.of text).allowsPlain = true
    | .single => '\n' ∉ text ∧ (TextShape.of text).allowsSingle = true
    | .double => True
    | .block => text ≠ [] ∧ ∀ c ∈ text, isPrintable c = true := by
  unfold TextForm.of
  by_cases lines : text.contains '\n' = true
  · rw [if_pos lines]
    by_cases block : (TextShape.of text).allowsBlock = true
    · rw [if_pos block]
      refine ⟨?_, List.all_eq_true.mp ?_⟩
      · rintro rfl
        cases lines
      · simp only [TextShape.allowsBlock, TextShape.isSimple, Bool.and_eq_true] at block
        exact block.1.1
    · rw [if_neg block]
      trivial
  · rw [if_neg lines]
    by_cases plain : (readsAsText text && (TextShape.of text).allowsPlain) = true
    · rw [if_pos plain]
      exact Bool.and_eq_true_iff.mp plain
    · rw [if_neg plain]
      by_cases single : (TextShape.of text).allowsSingle = true
      · rw [if_pos single]
        exact ⟨fun inside => lines (List.contains_iff_mem.mpr inside), single⟩
      · rw [if_neg single]
        trivial

/-- A text is written plain only if it is plain for a reader. -/
theorem isPlain_of_textForm {text : List Char} (form : TextForm.of text = .plain) :
    IsPlain text := by
  have told := textForm_cases text
  rw [form] at told
  have filled : text ≠ [] := by
    rintro rfl
    cases told.1
  exact isPlain_of_allowsPlain filled told.2

/-- The form in which a scalar is read that was written as a text. -/
def scalarFormOf (text : List Char) : ScalarForm :=
  match TextForm.of text with
  | .plain => .plain
  | .single | .double => .quoted
  | .block => .block

private theorem mem_of_mem_indentLines {c : Char} {fresh : Bool} {text : List Char}
    (inside : c ∈ indentLines fresh text) : c = ' ' ∨ c ∈ text := by
  induction text generalizing fresh with
  | nil => cases inside
  | cons first rest ih =>
      have before : c ∈ margin fresh → c = ' ' := by
        intro inMargin
        cases fresh with
        | false => cases inMargin
        | true => simpa [margin, lineIndent] using inMargin
      have written : c ∈ margin fresh ∨ c = first ∨ ∃ fresh, c ∈ indentLines fresh rest := by
        cases ends : isBreak first with
        | true =>
            rw [indentLines, if_pos ends, List.mem_cons] at inside
            exact .inr (inside.imp_right fun later => ⟨true, later⟩)
        | false =>
            rw [indentLines_cons ends, List.mem_append, List.mem_cons] at inside
            exact inside.imp_right (Or.imp_right fun later => ⟨false, later⟩)
      rcases written with inMargin | rfl | ⟨_, later⟩
      · exact .inl (before inMargin)
      · exact .inr List.mem_cons_self
      · exact (ih later).imp_right (List.mem_cons_of_mem _)

private theorem indentLines_printable {text : List Char}
    (printable : ∀ c ∈ text, isPrintable c = true) (fresh : Bool) :
    ∀ c ∈ indentLines fresh text, isPrintable c = true := by
  intro c inside
  rcases mem_of_mem_indentLines inside with rfl | inside
  · decide
  · exact printable c inside

/-- A printable text is printable between single quotes. -/
theorem writeSingle_printable {text : List Char} (printable : ∀ c ∈ text, isPrintable c = true) :
    ∀ c ∈ writeSingle text, isPrintable c = true := by
  have doubled : ∀ c ∈ text.flatMap quotedChar, isPrintable c = true := by
    intro c inside
    obtain ⟨original, member, inside⟩ := List.mem_flatMap.mp inside
    unfold quotedChar at inside
    split at inside
    next quote =>
      obtain rfl : c = '\'' := by simpa using inside
      decide
    next =>
      obtain rfl : c = original := by simpa using inside
      exact printable c member
  have lines := indentLines_printable doubled false
  have closing : ∀ c ∈ if text.getLast?.any isBreak then lineIndent else [],
      isPrintable c = true := by
    split
    · exact List.all_eq_true.mp (by decide)
    · nofun
  intro c inside
  simp only [writeSingle, List.mem_append, List.mem_singleton] at inside
  obtain ((rfl | inside) | inside) | rfl := inside
  · decide
  · exact lines c inside
  · exact closing c inside
  · decide

/-- A printable text is printable in a block. -/
theorem writeBlock_printable {text : List Char} (printable : ∀ c ∈ text, isPrintable c = true) :
    ∀ c ∈ writeBlock text, isPrintable c = true := by
  have header : ∀ c ∈ headerOf text, isPrintable c = true := by
    unfold headerOf
    cases hidesDepth text <;> cases chompingOf text <;> exact List.all_eq_true.mp (by decide)
  have closed : ∀ c ∈ closedLines text, isPrintable c = true := by
    unfold closedLines
    split
    · exact printable
    · exact List.forall_mem_append.mpr ⟨printable, List.forall_mem_singleton.mpr (by decide)⟩
  rw [writeBlock_eq, List.forall_mem_cons, List.forall_mem_append, List.forall_mem_cons]
  exact ⟨by decide, header, by decide, indentLines_printable closed true⟩

/-- Only characters that a text may hold are written. -/
theorem writeText_printable (text : List Char) : ∀ c ∈ writeText text, isPrintable c = true := by
  have told := textForm_cases text
  have newline : ∀ c ∈ ['\n'], isPrintable c = true := List.forall_mem_singleton.mpr (by decide)
  unfold writeText
  cases form : TextForm.of text with
  | plain =>
      have plain := isPlain_of_textForm form
      exact List.forall_mem_append.mpr ⟨fun c inside => (plain.inline c inside).1, newline⟩
  | single =>
      rw [form] at told
      simp only [TextShape.allowsSingle, TextShape.isSimple, Bool.and_eq_true] at told
      have printable := List.all_eq_true.mp told.2.1.1
      exact List.forall_mem_append.mpr ⟨writeSingle_printable printable, newline⟩
  | double =>
      have escaped : ∀ c ∈ text.flatMap writeEscaped, isPrintable c = true := by
        intro c inside
        obtain ⟨original, -, inside⟩ := List.mem_flatMap.mp inside
        exact (writeEscaped_inside original c inside).1
      have quote : ∀ c ∈ ['"'], isPrintable c = true := List.forall_mem_singleton.mpr (by decide)
      simp only [writeDouble, List.forall_mem_append]
      exact ⟨⟨⟨quote, escaped⟩, quote⟩, newline⟩
  | block =>
      rw [form] at told
      exact writeBlock_printable told.2

/-- What is written of a text ends its line. -/
theorem column_past_writeText (text : List Char) (mark : Mark) :
    (mark.past (writeText text)).column = 0 := by
  have told := textForm_cases text
  unfold writeText
  cases form : TextForm.of text with
  | plain | single | double => exact (mark.past_newline _).1
  | block =>
      rw [form] at told
      obtain ⟨init, last, same, ends⟩ := closedLines_ends told.2
      simp only [writeBlock_eq, same, indentLines_concat ends, Mark.past_cons, Mark.past_append,
        Mark.past_nil]
      exact Mark.column_after_of_break ends _

end FlowCheck.Yaml
