import FlowCheck.Proofs.Document.LineStarts

/-! # Lines and their starts

A document knows the texts of its lines and, apart from them, the offsets at which its lines start.
Both come of the same cuts: a line starts behind all that stands before it, which is the lines
before it with their newlines, and the text goes on with the line itself.
-/

namespace FlowCheck

/-- Lines with a newline behind each of them. -/
def terminated (lines : List (List Char)) : List Char :=
  lines.flatMap (· ++ ['\n'])

@[simp]
theorem terminated_nil : terminated [] = [] := rfl

@[simp]
theorem terminated_cons (line : List Char) (lines : List (List Char)) :
    terminated (line :: lines) = line ++ '\n' :: terminated lines := by
  simp [terminated]

@[simp]
theorem terminated_append (lines others : List (List Char)) :
    terminated (lines ++ others) = terminated lines ++ terminated others :=
  List.flatMap_append

private theorem length_le_length_terminated (lines : List (List Char)) :
    lines.length ≤ (terminated lines).length := by
  induction lines with
  | nil => exact Nat.le_refl 0
  | cons line lines ih =>
      rw [terminated_cons, List.length_append, List.length_cons, List.length_cons]
      omega

/-- The starts of the lines, in characters, are the lengths of what stands before them. -/
theorem newlineEnds_getElem? (chars : List Char) (offset line : Nat) :
    (offset :: newlineEnds (fun _ => 1) offset chars)[line]? =
      ((chars.splitOn '\n')[line]?).map fun _ =>
        offset + (terminated ((chars.splitOn '\n').take line)).length := by
  induction chars generalizing offset line with
  | nil => cases line <;> simp [newlineEnds]
  | cons c rest ih =>
      rw [List.splitOn_cons_eq_if_modifyHead]
      by_cases newline : c = '\n'
      · subst newline
        simp only [newlineEnds, ↓reduceIte, BEq.rfl]
        cases line with
        | zero => simp
        | succ line =>
            rw [List.getElem?_cons_succ, ih, List.getElem?_cons_succ, List.take_succ_cons,
              terminated_cons]
            simp only [List.nil_append, List.length_cons, Nat.add_assoc, Nat.add_comm 1]
      · simp only [newlineEnds, newline, ↓reduceIte, beq_iff_eq]
        obtain ⟨first, others, split⟩ := List.exists_cons_of_ne_nil (List.splitOn_ne_nil '\n' rest)
        cases line with
        | zero => simp [split]
        | succ line =>
            have later := ih (offset + 1) (line + 1)
            rw [List.getElem?_cons_succ] at later ⊢
            rw [later, split]
            simp only [List.modifyHead_cons, List.getElem?_cons_succ, List.take_succ_cons,
              terminated_cons, List.cons_append, List.length_cons, List.length_append,
              Nat.add_assoc, Nat.add_comm 1]

private theorem intercalate_eq_terminated_append {lines : List (List Char)} {line : Nat}
    (inside : line < lines.length) :
    ['\n'].intercalate lines =
      terminated (lines.take line) ++ ['\n'].intercalate (lines.drop line) := by
  induction line generalizing lines with
  | zero => simp
  | succ line ih =>
      match lines, inside with
      | first :: next :: rest, inside =>
          have insideRest : line < (next :: rest).length := Nat.lt_of_succ_lt_succ inside
          rw [List.intercalate_cons_cons, ih insideRest, List.take_succ_cons, List.drop_succ_cons,
            terminated_cons]
          simp

/-- The part of a text that stands between two others. -/
theorem extract_append {α : Type} (before middle after : List α) :
    (before ++ (middle ++ after)).extract before.length (before.length + middle.length) =
      middle := by
  rw [List.extract_eq_take_drop, List.drop_left, Nat.add_sub_cancel_left, List.take_left]

namespace Document

variable {doc : Document} {line : Nat} {text : List Char}

/-- What stands before a line. -/
def before (doc : Document) (line : Nat) : List Char :=
  terminated (doc.lines.take line)

/-- A line begins behind what stands before it. -/
theorem lineStart?_eq (doc : Document) (line : Nat) :
    doc.lineStart? line = (doc.line? line).map fun _ => (doc.before line).length := by
  rw [lineStart?, doc.starts_eq, ← Array.getElem?_toList, lineStarts_toList,
    newlineEnds_getElem?]
  simp only [Nat.zero_add]
  rfl

/-- A line that there is begins behind what stands before it. -/
theorem lineStart?_of_line? (found : doc.line? line = some text) :
    doc.lineStart? line = some (doc.before line).length := by
  rw [lineStart?_eq, found, Option.map_some]

/-- What has a start is a line. -/
theorem line?_of_lineStart? {start : Nat} (found : doc.lineStart? line = some start) :
    ∃ text, doc.line? line = some text ∧ start = (doc.before line).length := by
  rw [lineStart?_eq, Option.map_eq_some_iff] at found
  obtain ⟨text, isLine, same⟩ := found
  exact ⟨text, isLine, same.symm⟩

/-- There are as many lines as starts. -/
theorem lineCount_eq (doc : Document) : doc.lineCount = doc.lines.length := by
  have missing : ∀ line, doc.lineCount ≤ line ↔ doc.lines.length ≤ line := by
    intro line
    have same : doc.lineStart? line = none ↔ doc.line? line = none := by
      rw [lineStart?_eq, Option.map_eq_none_iff]
    rwa [lineStart?, Array.getElem?_eq_none_iff, line?, List.getElem?_eq_none_iff] at same
  exact Nat.le_antisymm ((missing _).mpr (Nat.le_refl _)) ((missing _).mp (Nat.le_refl _))

/-- What stands before the next line is what stands before a line, the line and its newline. -/
theorem before_succ (found : doc.line? line = some text) :
    doc.before (line + 1) = doc.before line ++ text ++ ['\n'] := by
  rw [line?] at found
  rw [before, List.take_add_one, terminated_append, found]
  simp [before]

/-- As many newlines as there are lines stand before a line. -/
theorem line_le_length_before (found : doc.line? line = some text) :
    line ≤ (doc.before line).length := by
  obtain ⟨inside, -⟩ := List.getElem?_eq_some_iff.mp found
  have counted := length_le_length_terminated (doc.lines.take line)
  rwa [List.length_take_of_le (Nat.le_of_lt inside)] at counted

/-- The next line begins behind a line and its newline. -/
theorem length_before_succ (found : doc.line? line = some text) :
    (doc.before (line + 1)).length = (doc.before line).length + text.length + 1 := by
  rw [before_succ found]
  simp only [List.length_append, List.length_singleton]

/-- What stands between the starts of two lines is the lines from the first to the one before the
second. -/
theorem before_append (doc : Document) {first last : Nat} (ordered : first ≤ last) :
    doc.before last = doc.before first ++ terminated (doc.lines.extract first last) := by
  rw [before, before, ← terminated_append, List.extract_eq_take_drop, ← List.take_add,
    Nat.add_sub_cancel' ordered]

/-- Later lines begin no earlier. -/
theorem length_before_le (doc : Document) {first last : Nat} (ordered : first ≤ last) :
    (doc.before first).length ≤ (doc.before last).length := by
  rw [before_append doc ordered, List.length_append]
  exact Nat.le_add_right ..

/-- A line stands in the text behind what stands before it. It goes to the end of the text if it is
the last one, and up to a newline if not. -/
theorem exists_chars_eq (found : doc.line? line = some text) :
    ∃ rest, doc.chars = doc.before line ++ (text ++ rest) ∧
      (line + 1 = doc.lines.length ∧ rest = [] ∨
        line + 1 < doc.lines.length ∧ ['\n'] <+: rest) := by
  obtain ⟨inside, rfl⟩ := List.getElem?_eq_some_iff.mp found
  have cut := intercalate_eq_terminated_append inside
  rw [lines, List.intercalate_splitOn, ← lines, List.drop_eq_getElem_cons inside] at cut
  rcases Nat.lt_or_eq_of_le inside with more | last
  · obtain ⟨next, others, later⟩ : ∃ next others, doc.lines.drop (line + 1) = next :: others :=
      ⟨_, _, List.drop_eq_getElem_cons more⟩
    rw [later, List.intercalate_cons_cons] at cut
    refine ⟨'\n' :: ['\n'].intercalate (next :: others), ?_, .inr ⟨more, List.prefix_append ..⟩⟩
    rw [cut, before]
    simp
  · rw [List.drop_of_length_le (Nat.le_of_eq last.symm), List.intercalate_singleton] at cut
    exact ⟨[], by rw [cut, before, List.append_nil], .inl ⟨last, rfl⟩⟩

/-- A line ends within the text, and exactly at its end if it is the last line. -/
theorem length_before_add_le (found : doc.line? line = some text) :
    (doc.before line).length + text.length ≤ doc.length := by
  obtain ⟨rest, cut, -⟩ := exists_chars_eq found
  rw [doc.length_eq, cut]
  simp only [List.length_append]
  omega

/-- A line is the part of the text from its start on, as long as it is. -/
theorem extract_of_line? (found : doc.line? line = some text) :
    doc.chars.extract (doc.before line).length ((doc.before line).length + text.length) = text := by
  obtain ⟨rest, cut, -⟩ := exists_chars_eq found
  rw [cut]
  exact extract_append ..

/-- The last line ends where the text does. -/
theorem length_eq_of_last (found : doc.line? line = some text)
    (isLast : doc.lines.length ≤ line + 1) :
    doc.length = (doc.before line).length + text.length := by
  obtain ⟨rest, cut, ⟨-, rfl⟩ | ⟨more, -⟩⟩ := exists_chars_eq found
  · rw [doc.length_eq, cut, List.append_nil, List.length_append]
  · omega

end Document

end FlowCheck
