import FlowCheck.Proofs.Document.Lines

/-! # Positions

The position of an offset is found by halving the table of line starts. The search keeps two bounds:
every start before the first is at most the offset, and every start from the second on is greater.
When they meet, the line before them holds the offset, and no other one does.
-/

namespace FlowCheck

/-- Two bounds in a table with the entries at most an offset on the left of the first and those
greater than it from the second on. -/
structure Separates (starts : Array Nat) (offset low high : Nat) : Prop where
  ordered : low ≤ high
  bounded : high ≤ starts.size
  below : ∀ place, place < low → starts.getD place 0 ≤ offset
  above : ∀ place, high ≤ place → place < starts.size → offset < starts.getD place 0

/-- The search ends at a place that separates the table by itself. -/
theorem Separates.countAtMost {starts : Array Nat}
    (sorted : ∀ first last, first ≤ last → last < starts.size →
      starts.getD first 0 ≤ starts.getD last 0)
    {offset low high : Nat} (separates : Separates starts offset low high) :
    Separates starts offset (countAtMost starts offset low high)
      (countAtMost starts offset low high) := by
  obtain ⟨ordered, bounded, below, above⟩ := separates
  fun_induction FlowCheck.countAtMost starts offset low high with
  | case1 low high room middle reached ih =>
      have inside : middle < starts.size := by omega
      refine ih (by omega) bounded (fun place before => ?_) above
      exact Nat.le_trans (sorted place middle (by omega) inside) reached
  | case2 low high room middle passed ih =>
      refine ih (by omega) (by omega) below fun place behind inside => ?_
      exact Nat.lt_of_lt_of_le (Nat.lt_of_not_le passed) (sorted middle place behind inside)
  | case3 low high empty =>
      have meet : low = high := by omega
      subst meet
      exact ⟨Nat.le_refl _, bounded, below, above⟩

namespace Document

variable {doc : Document} {offset : Nat}

private theorem starts_getD {line : Nat} (inside : line < doc.starts.size) :
    doc.starts.getD line 0 = (doc.before line).length := by
  obtain ⟨text, isLine⟩ : ∃ text, doc.line? line = some text := by
    have counted : line < doc.lineCount := inside
    rw [lineCount_eq] at counted
    exact ⟨_, List.getElem?_eq_getElem counted⟩
  have found := lineStart?_of_line? isLine
  rw [lineStart?] at found
  rw [Array.getD_eq_getD_getElem?, found, Option.getD_some]

/-- The search finds the last line that starts at the offset or before it. -/
theorem countAtMost_starts (doc : Document) (offset : Nat) :
    ∃ line, countAtMost doc.starts offset 0 doc.starts.size = line + 1 ∧
      line < doc.lines.length ∧ (doc.before line).length ≤ offset ∧
      (line + 1 < doc.lines.length → offset < (doc.before (line + 1)).length) := by
  have size : doc.starts.size = doc.lines.length := doc.lineCount_eq
  have sorted : ∀ first last, first ≤ last → last < doc.starts.size →
      doc.starts.getD first 0 ≤ doc.starts.getD last 0 := by
    intro first last ordered inside
    rw [starts_getD inside, starts_getD (by omega)]
    exact length_before_le _ ordered
  have whole : Separates doc.starts offset 0 doc.starts.size :=
    ⟨Nat.zero_le _, Nat.le_refl _, nofun, fun _ behind inside => by omega⟩
  obtain ⟨-, bounded, below, above⟩ := whole.countAtMost sorted
  generalize countAtMost doc.starts offset 0 doc.starts.size = count at bounded below above
  cases count with
  | zero =>
      -- The first line starts at zero, so the search does not stop in front of it.
      have nonempty : 0 < doc.starts.size := by
        rw [size]
        exact List.length_pos_iff.mpr (List.splitOn_ne_nil '\n' doc.chars)
      have first := above 0 (Nat.le_refl _) nonempty
      rw [starts_getD nonempty] at first
      cases first
  | succ line =>
      have reached := below line (Nat.lt_succ_self _)
      rw [starts_getD bounded] at reached
      refine ⟨line, rfl, by omega, reached, fun more => ?_⟩
      have passed := above (line + 1) (Nat.le_refl _) (by omega)
      rwa [starts_getD (by omega)] at passed

/-- A position of an offset is a line and a column on it, or just behind it, that lead to the offset
from the start of the line. -/
theorem position?_eq_some_iff {position : Position} :
    doc.position? offset = some position ↔
      ∃ text, doc.line? position.line = some text ∧ position.column ≤ text.length ∧
        (doc.before position.line).length + position.column = offset := by
  obtain ⟨found, count, inside, reached, unpassed⟩ := doc.countAtMost_starts offset
  have size : doc.starts.size = doc.lines.length := doc.lineCount_eq
  rw [position?, count, Nat.add_sub_cancel]
  dsimp only
  rw [starts_getD (by omega), Option.ite_none_right_eq_some, Option.some.injEq]
  have isLine : doc.line? found = some doc.lines[found] := List.getElem?_eq_getElem inside
  constructor
  · rintro ⟨inText, rfl⟩
    refine ⟨_, isLine, ?_, Nat.add_sub_cancel' reached⟩
    dsimp only
    rcases Nat.lt_or_ge (found + 1) doc.lines.length with more | last
    · have next := unpassed more
      rw [length_before_succ isLine] at next
      omega
    · have atEnd := length_eq_of_last isLine last
      omega
  · obtain ⟨line, column⟩ := position
    rintro ⟨text, isText, onLine, rfl⟩
    dsimp only at isText onLine unpassed reached ⊢
    obtain ⟨inLines, -⟩ := List.getElem?_eq_some_iff.mp isText
    have inText := length_before_add_le isText
    -- Neither a line before the right one nor one behind it can be the last that starts in time.
    have same : found = line := by
      rcases Nat.lt_trichotomy found line with early | same | late
      · have next := unpassed (by omega)
        have ordered := length_before_le doc (show found + 1 ≤ line from early)
        omega
      · exact same
      · have ordered := length_before_le doc (show line + 1 ≤ found from late)
        rw [length_before_succ isText] at ordered
        omega
    subst same
    exact ⟨by omega, by rw [Nat.add_sub_cancel_left]⟩

/-- Every offset up to the end of the text has a position. -/
theorem exists_position (inText : offset ≤ doc.length) :
    ∃ position, doc.position? offset = some position :=
  ⟨_, if_pos inText⟩

/-- Offsets in order have lines in order. -/
theorem line_le_of_le {start stop : Nat} {near far : Position}
    (isNear : doc.position? start = some near) (isFar : doc.position? stop = some far)
    (ordered : start ≤ stop) : near.line ≤ far.line := by
  obtain ⟨_, -, -, rfl⟩ := position?_eq_some_iff.mp isNear
  obtain ⟨text, isLine, onLine, rfl⟩ := position?_eq_some_iff.mp isFar
  refine Nat.le_of_not_lt fun behind => ?_
  have later := length_before_le doc (show far.line + 1 ≤ near.line from behind)
  rw [length_before_succ isLine] at later
  omega

end Document

end FlowCheck
