import FlowCheck.Proofs.Document.Lines

/-! # Lines between their starts

The texts of the lines come of splitting the text at its newlines, the starts of the lines come of
counting its characters. Either can be had from the other: a line is what stands from its start up
to the newline in front of the next start, and joining the lines gives back the text.
-/

namespace FlowCheck

private theorem newline_notMem_of_mem_splitOn {chars line : List Char}
    (member : line ∈ chars.splitOn '\n') : '\n' ∉ line := by
  induction chars generalizing line with
  | nil =>
      rw [List.splitOn_nil, List.mem_singleton] at member
      rw [member]
      exact List.not_mem_nil
  | cons c rest ih =>
      obtain ⟨first, others, split⟩ := List.exists_cons_of_ne_nil (List.splitOn_ne_nil '\n' rest)
      rw [List.splitOn_cons_eq_if_modifyHead, split] at member
      rw [split] at ih
      by_cases newline : c = '\n'
      · rw [if_pos (by simpa using newline)] at member
        rcases List.mem_cons.mp member with empty | later
        · rw [empty]
          exact List.not_mem_nil
        · exact ih later
      · rw [if_neg (by simpa using newline), List.modifyHead_cons] at member
        rcases List.mem_cons.mp member with longer | later
        · rw [longer, List.mem_cons, not_or]
          exact ⟨Ne.symm newline, ih List.mem_cons_self⟩
        · exact ih (List.mem_cons_of_mem _ later)

private theorem filterMap_range_getElem? {α : Type} (entries : List α) :
    (List.range entries.length).filterMap (fun place => entries[place]?) = entries := by
  induction entries with
  | nil => rfl
  | cons entry rest ih =>
      rw [List.length_cons, List.range_succ_eq_map, List.filterMap_cons, List.filterMap_map]
      simp only [List.getElem?_cons_zero, Function.comp_def, Nat.succ_eq_add_one,
        List.getElem?_cons_succ, ih]

namespace Document

variable {doc : Document} {line : Nat} {content : List Char}

/-- A line as the table of line starts cuts it out: from its start up to the newline in front of the
next start, or up to the end of the text if there is no next one. -/
inductive CutsOut (doc : Document) (line : Nat) : List Char → Prop where
  | inner {start next : Nat} (isStart : doc.lineStart? line = some start)
      (isNext : doc.lineStart? (line + 1) = some next) (ordered : start < next)
      (newline : doc.chars[next - 1]? = some '\n') :
      doc.CutsOut line (doc.chars.extract start (next - 1))
  | last {start : Nat} (isStart : doc.lineStart? line = some start)
      (isLast : doc.lineStart? (line + 1) = none) :
      doc.CutsOut line (doc.chars.extract start doc.length)

/-- No line holds a newline. -/
theorem newline_notMem_of_line? (found : doc.line? line = some content) : '\n' ∉ content :=
  newline_notMem_of_mem_splitOn (List.mem_of_getElem? found)

private theorem isSome_line? : (doc.line? line).isSome = (doc.lineStart? line).isSome := by
  rw [lineStart?_eq, Option.isSome_map]

private theorem cutsOut_of_line? (found : doc.line? line = some content) :
    doc.CutsOut line content := by
  have isStart := lineStart?_of_line? found
  have extracted := extract_of_line? found
  obtain ⟨rest, cut, ⟨isLast, rfl⟩ | ⟨more, newline⟩⟩ := exists_chars_eq found
  · rw [← length_eq_of_last found (Nat.le_of_eq isLast.symm)] at extracted
    rw [← extracted]
    apply CutsOut.last isStart
    rw [lineStart?_eq, Option.map_eq_none_iff]
    exact List.getElem?_eq_none (Nat.le_of_eq isLast.symm)
  · have isNext : doc.lineStart? (line + 1) =
        some ((doc.before line).length + content.length + 1) := by
      rw [← length_before_succ found]
      exact lineStart?_of_line? (List.getElem?_eq_getElem more)
    rw [← extracted]
    apply CutsOut.inner isStart isNext (by omega)
    obtain ⟨behind, rfl⟩ := newline
    rw [cut, Nat.add_sub_cancel, ← List.length_append, ← List.append_assoc,
      List.getElem?_append_right (Nat.le_refl _), Nat.sub_self]
    rfl

/-- The table has one start for a line and at most one for the next, so it cuts out one text. -/
theorem CutsOut.eq {other : List Char} (cuts : doc.CutsOut line content)
    (cuts' : doc.CutsOut line other) : content = other := by
  cases cuts with
  | inner isStart isNext =>
      cases cuts' with
      | inner isStart' isNext' =>
          rw [isStart] at isStart'
          rw [isNext] at isNext'
          cases isStart'
          cases isNext'
          rfl
      | last _ isLast =>
          rw [isNext] at isLast
          cases isLast
  | last isStart isLast =>
      cases cuts' with
      | inner _ isNext =>
          rw [isLast] at isNext
          cases isNext
      | last isStart' =>
          rw [isStart] at isStart'
          cases isStart'
          rfl

private theorem CutsOut.exists_start (cuts : doc.CutsOut line content) :
    ∃ start, doc.lineStart? line = some start := by
  cases cuts with
  | inner isStart => exact ⟨_, isStart⟩
  | last isStart => exact ⟨_, isStart⟩

/-- A line of a document is what is cut out for it by its start and the next one. -/
theorem line?_eq_some_iff_cutsOut : doc.line? line = some content ↔ doc.CutsOut line content := by
  constructor
  · exact cutsOut_of_line?
  · intro cuts
    obtain ⟨start, isStart⟩ := cuts.exists_start
    obtain ⟨other, found, -⟩ := line?_of_lineStart? isStart
    rw [found, cuts.eq (cutsOut_of_line? found)]

/-- Every line of a document has a start. -/
theorem isSome_lineStart?_iff : (doc.lineStart? line).isSome = true ↔ line < doc.lineCount := by
  rw [← isSome_line?, lineCount_eq, line?, isSome_getElem?]

private theorem filterMap_line? (doc : Document) :
    (List.range doc.lineCount).filterMap doc.line? = doc.lines := by
  rw [lineCount_eq]
  exact filterMap_range_getElem? doc.lines

/-- **A line is the text between two starts.** Both ways of cutting a text know the same lines,
which are as many as are counted. A line by its text is the line that the table of starts cuts out,
and it has no newline. The lines with newlines between them are the text, and its length is the
number of its characters. -/
theorem lines_between_starts (text : String) :
    let doc := Document.ofString text
    (∀ line, (doc.line? line).isSome = (doc.lineStart? line).isSome ∧
      ((doc.lineStart? line).isSome = true ↔ line < doc.lineCount)) ∧
    (∀ line content, doc.line? line = some content ↔ doc.CutsOut line content) ∧
    (∀ line content, doc.line? line = some content → '\n' ∉ content) ∧
    ['\n'].intercalate ((List.range doc.lineCount).filterMap doc.line?) = text.toList ∧
    doc.length = text.length := by
  intro doc
  refine ⟨fun line => ⟨isSome_line?, isSome_lineStart?_iff⟩, fun line content =>
    line?_eq_some_iff_cutsOut, fun line content => newline_notMem_of_line?, ?_, ?_⟩
  · rw [filterMap_line?]
    exact List.intercalate_splitOn '\n'
  · rw [doc.length_eq]
    exact String.length_toList

/-- A carriage return belongs to its line, and a newline at the end begins an empty one. -/
example :
    let doc := Document.ofString "é\r\n\n"
    doc.lineCount = 3 ∧ doc.line? 0 = some ['é', '\r'] ∧ doc.lineStart? 2 = some 4 ∧
      doc.line? 2 = some [] := by
  decide

end Document

end FlowCheck
