import FlowCheck.Proofs.Coordinates

/-! # Texts within a text

A text that begins on a line of its own keeps its lines when more text is put in front of it and
behind it. The numbers of the lines grow by the newlines in front, their starts by the characters in
front, and so a span that is placed in the text is placed at the same characters of the longer one.
-/

namespace FlowCheck

variable {width : Char → Nat} {before text : List Char} {line start : Nat}

/-! ## Line starts -/

private theorem newlineEnds_append (offset : Nat) (chars rest : List Char) :
    newlineEnds width offset (chars ++ rest) =
      newlineEnds width offset chars ++
        newlineEnds width (offset + (chars.map width).sum) rest := by
  induction chars generalizing offset with
  | nil => rfl
  | cons c chars ih =>
      rw [List.cons_append, List.map_cons, List.sum_cons, ← Nat.add_assoc]
      by_cases newline : c = '\n'
      · rw [newlineEnds, newlineEnds, if_pos newline, if_pos newline, ih, List.cons_append]
      · rw [newlineEnds, newlineEnds, if_neg newline, if_neg newline, ih]

private theorem newlineEnds_add (distance offset : Nat) (chars : List Char) :
    newlineEnds width (distance + offset) chars =
      (newlineEnds width offset chars).map (distance + ·) := by
  induction chars generalizing offset with
  | nil => rfl
  | cons c chars ih =>
      by_cases newline : c = '\n'
      · rw [newlineEnds, newlineEnds, if_pos newline, if_pos newline, Nat.add_assoc, ih,
          List.map_cons]
      · rw [newlineEnds, newlineEnds, if_neg newline, if_neg newline, Nat.add_assoc, ih]

private theorem length_newlineEnds (offset : Nat) (chars : List Char) :
    (newlineEnds width offset chars).length = chars.count '\n' := by
  induction chars generalizing offset with
  | nil => rfl
  | cons c chars ih =>
      by_cases newline : c = '\n'
      · rw [newlineEnds, if_pos newline, List.length_cons, ih, newline, List.count_cons_self]
      · rw [newlineEnds, if_neg newline, ih, List.count_cons_of_ne newline]

/-- A text after which a line begins: the start of that line is the end of the text, and as many
lines start before it as there are newlines. -/
theorem exists_starts_before (width : Char → Nat)
    (whole : before = [] ∨ before.getLast? = some '\n') :
    ∃ earlier : List Nat, earlier.length = before.count '\n' ∧
      0 :: newlineEnds width 0 before = earlier ++ [(before.map width).sum] := by
  rcases whole with rfl | ends
  · exact ⟨[], rfl, rfl⟩
  · obtain ⟨chars, rfl⟩ := List.getLast?_eq_some_iff.mp ends
    refine ⟨0 :: newlineEnds width 0 chars, ?_, ?_⟩
    · rw [List.length_cons, length_newlineEnds, List.count_append, List.count_singleton_self]
    · rw [newlineEnds_append, List.cons_append, List.map_append, List.sum_append, Nat.zero_add]
      rfl

/-- The lines of a text start in a longer one where they start in the text, behind what stands in
front. -/
theorem lineStarts_within (behind : List Char)
    (whole : before = [] ∨ before.getLast? = some '\n')
    (found : (lineStarts width text)[line]? = some start) :
    (lineStarts width (before ++ (text ++ behind)))[before.count '\n' + line]? =
      some ((before.map width).sum + start) := by
  obtain ⟨earlier, counted, starts⟩ := exists_starts_before width whole
  rw [← Array.getElem?_toList, lineStarts_toList] at found ⊢
  obtain ⟨inside, -⟩ := List.getElem?_eq_some_iff.mp found
  set distance := (before.map width).sum
  have shifted : distance :: newlineEnds width distance text =
      (0 :: newlineEnds width 0 text).map (distance + ·) :=
    congrArg (distance :: ·) (newlineEnds_add distance 0 text)
  rw [newlineEnds_append, newlineEnds_append, ← List.cons_append, starts, Nat.zero_add,
    List.append_assoc, List.singleton_append, ← List.cons_append, shifted, ← counted,
    List.getElem?_append_right (Nat.le_add_right ..), Nat.add_sub_cancel_left,
    List.getElem?_append_left (by rwa [List.length_map]), List.getElem?_map, found]
  rfl

/-- A line of a text begins further on by what is put in front of the text. -/
theorem Document.lineStart?_within {before text behind : String}
    (whole : before = "" ∨ before.toList.getLast? = some '\n')
    (found : (ofString text).lineStart? line = some start) :
    (ofString (before ++ text ++ behind)).lineStart? (before.toList.count '\n' + line) =
      some (before.length + start) := by
  have whole' : before.toList = [] ∨ before.toList.getLast? = some '\n' :=
    whole.imp_left fun empty => by rw [empty]; rfl
  have moved := lineStarts_within behind.toList whole' found
  rw [List.map_const', List.sum_replicate_nat, Nat.mul_one, ← String.toList_append,
    ← String.toList_append, ← String.append_assoc] at moved
  exact moved

/-! ## Spans -/

namespace Span

/-- A span names the columns of another one, on lines that are further down by a number. -/
structure IsBelow (lower upper : Span) (lines : Nat) : Prop where
  startLine : lower.startLine.toInt = upper.startLine.toInt + lines
  startColumn : lower.startColumn = upper.startColumn
  endLine : lower.endLine.toInt = upper.endLine.toInt + lines
  endColumn : lower.endColumn = upper.endColumn

variable {before text behind : String} {span lower : Span} {range : TextRange}

/-- A numbered line of a text is further down by the lines in front of the text, and begins further
on by their length. -/
theorem startOf?_within {line lowerLine : Int64}
    (whole : before = "" ∨ before.toList.getLast? = some '\n')
    (further : lowerLine.toInt = line.toInt + before.toList.count '\n')
    (found : (Document.ofString text).lineIndex.startOf? line = some start) :
    (Document.ofString (before ++ text ++ behind)).lineIndex.startOf? lowerLine =
      some (before.length + start) := by
  rw [LineIndex.startOf?, Option.ite_none_right_eq_some] at found ⊢
  obtain ⟨positive, isStart⟩ := found
  have place : (lowerLine.toInt - 1).toNat =
      before.toList.count '\n' + (line.toInt - 1).toNat := by omega
  rw [place]
  exact ⟨by omega, Document.lineStart?_within whole isStart⟩

/-- What a span names in a text, a span that much further down names in the longer text. -/
theorem Names.within (whole : before = "" ∨ before.toList.getLast? = some '\n')
    (below : lower.IsBelow span (before.toList.count '\n'))
    (named : span.Names (Document.ofString text).lineIndex range) :
    lower.Names (Document.ofString (before ++ text ++ behind)).lineIndex
      ⟨range.start + before.length, range.stop + before.length⟩ := by
  obtain ⟨first, last, foundFirst, foundLast, start, stop, ordered, inside⟩ := named
  have inText : range.stop ≤ text.length := inside
  refine ⟨before.length + first, before.length + last,
    startOf?_within whole below.startLine foundFirst,
    startOf?_within whole below.endLine foundLast, ?_, ?_, Nat.add_le_add_right ordered _, ?_⟩
  · rw [startOffset] at start ⊢
    rw [below.startColumn]
    push_cast
    omega
  · rw [stopOffset] at stop ⊢
    rw [below.endColumn]
    push_cast
    omega
  · change range.stop + before.length ≤ (before ++ text ++ behind).length
    rw [String.length_append, String.length_append]
    omega

/-- A line that a text has can be counted on by the newlines in front, unless its number leaves the
signed 64-bit numbers. -/
theorem exists_lowerLine {line : Int64}
    (bounded : (before ++ text ++ behind).length + 1 < 0x8000000000000000)
    (found : (Document.ofString text).lineIndex.startOf? line = some start) :
    ∃ lowerLine : Int64, lowerLine.toInt = line.toInt + before.toList.count '\n' := by
  obtain ⟨place, content, number, isLine, -⟩ := Document.startOf?_eq_some_iff.mp found
  have earlier := Document.line_le_length_before isLine
  have inText : _ ≤ text.length := Document.length_before_add_le isLine
  have newlines : before.toList.count '\n' ≤ before.length := List.count_le_length
  rw [String.length_append, String.length_append] at bounded
  exact ⟨.ofInt _, Int64.toInt_ofInt_of_le (by omega) (by omega)⟩

/-- **Places do not depend on other text.** Let a text begin on a line of its own within a longer
text. Where a span is placed in the text, the span that is further down by the newlines in front is
placed in the longer one, at an offset that is greater by the characters in front. There is such a
span unless a line number leaves the signed 64-bit numbers. -/
theorem place_within (before text behind : String) {span : Span} {range : TextRange}
    (whole : before = "" ∨ before.toList.getLast? = some '\n')
    (bounded : (before ++ text ++ behind).length < 0x8000000000000000)
    (placed : span.place (Document.ofString text).lineIndex = .ok range) :
    (∀ lower : Span, lower.IsBelow span (before.toList.count '\n') →
      lower.place (Document.ofString (before ++ text ++ behind)).lineIndex =
        .ok ⟨range.start + before.length, range.stop + before.length⟩) ∧
    ((before ++ text ++ behind).length + 1 < 0x8000000000000000 →
      ∃ lower : Span, lower.IsBelow span (before.toList.count '\n')) := by
  have named := names_of_place placed
  constructor
  · intro lower below
    exact place_of_names (Document.lineIndex_isSigned bounded) (named.within whole below)
  · intro short
    obtain ⟨first, last, foundFirst, foundLast, -⟩ := named
    obtain ⟨startLine, startBelow⟩ := exists_lowerLine short foundFirst
    obtain ⟨endLine, endBelow⟩ := exists_lowerLine short foundLast
    exact ⟨⟨startLine, span.startColumn, endLine, span.endColumn⟩, startBelow, rfl, endBelow, rfl⟩

/-- A span starts on the second of two lines at a negative column, so on the first line, and stops
on the first line at a column of the second. Two lines in front do not change this. -/
theorem place_within_across_lines :
    (⟨2, -1, 1, 5⟩ : Span).place (Document.ofString "ab\ncd").lineIndex = .ok ⟨1, 5⟩ ∧
      (⟨4, -1, 3, 5⟩ : Span).place (Document.ofString ("é\n\n" ++ "ab\ncd" ++ "e")).lineIndex =
        .ok ⟨4, 8⟩ := by
  have placed : (⟨2, -1, 1, 5⟩ : Span).place (Document.ofString "ab\ncd").lineIndex =
      .ok ⟨1, 5⟩ := rfl
  refine ⟨placed, ?_⟩
  exact (place_within "é\n\n" "ab\ncd" "e" (.inr (by decide)) (by decide) placed).1 ⟨4, -1, 3, 5⟩
    ⟨by decide, rfl, by decide, rfl⟩

end Span

end FlowCheck
