import FlowCheck.Proofs.Document.LineStarts
import FlowCheck.Span

/-! # Placing spans exactly

A span names two integers, each the start of a line plus columns. Placing it gives the range between
them if that range lies in the text, and no sum along the way wraps around: what leaves the signed
64-bit numbers is refused. The only integers that are refused although they lie in the text are
those of an index whose own offsets are larger than that.
-/

namespace FlowCheck

/-- Whether an integer is a signed 64-bit number. -/
def IsSigned64 (value : Int) : Prop :=
  -0x8000000000000000 ≤ value ∧ value < 0x8000000000000000

namespace LineIndex

/-- The offset at which a line starts, for a line number that counts from one. Numbers below one and
lines that the index does not have start nowhere. -/
def startOf? (index : LineIndex) (line : Int64) : Option Nat :=
  if 1 ≤ line.toInt then index.lineStart? (line.toInt - 1).toNat else none

/-- An index whose offsets are signed 64-bit numbers. -/
structure IsSigned (index : LineIndex) : Prop where
  length_lt : index.length < 0x8000000000000000
  start_lt : ∀ line start, index.lineStart? line = some start → start < 0x8000000000000000

end LineIndex

namespace Span

/-- Where a span starts, in exact arithmetic, if its first line starts at an offset. -/
def startOffset (span : Span) (first : Nat) : Int :=
  first + span.startColumn.toInt - 1

/-- Where a span stops, in exact arithmetic, if its last line starts at an offset. -/
def stopOffset (span : Span) (last : Nat) : Int :=
  last + span.endColumn.toInt

/-- A range of a text that a span names: its lines exist, and the ends of the range are the integers
that the span stands for. -/
def Names (span : Span) (index : LineIndex) (range : TextRange) : Prop :=
  ∃ first last, index.startOf? span.startLine = some first ∧
    index.startOf? span.endLine = some last ∧
    (range.start : Int) = span.startOffset first ∧ (range.stop : Int) = span.stopOffset last ∧
    range.start ≤ range.stop ∧ range.stop ≤ index.length

/-- No number on the way to the ends of a span leaves the signed 64-bit numbers. -/
structure Fits (span : Span) (first last : Nat) : Prop where
  column : -0x8000000000000000 < span.startColumn.toInt
  first_lt : first < 0x8000000000000000
  last_lt : last < 0x8000000000000000
  start : IsSigned64 (span.startOffset first)
  stop : IsSigned64 (span.stopOffset last)

end Span

/-- A number is kept exactly if 64 bits with a sign hold it. -/
theorem signed64?_eq_some_iff {value result : Int} :
    signed64? value = some result ↔ IsSigned64 value ∧ value = result := by
  unfold signed64? IsSigned64
  split
  · next inside =>
      rw [Option.some.injEq]
      exact ⟨fun same => ⟨by omega, same⟩, And.right⟩
  · next outside =>
      constructor
      · intro found
        cases found
      · rintro ⟨inside, -⟩
        omega

/-- A checked sum is the exact one; the line's start has to be a signed 64-bit number as well. -/
theorem offsetPlus?_eq_some_iff {lineStart : Nat} {column result : Int} :
    offsetPlus? lineStart column = some result ↔
      lineStart < 0x8000000000000000 ∧ IsSigned64 (lineStart + column) ∧
        lineStart + column = result := by
  simp only [offsetPlus?, Option.bind_eq_some_iff, signed64?_eq_some_iff]
  constructor
  · rintro ⟨start, ⟨startFits, rfl⟩, sumFits, sum⟩
    exact ⟨by unfold IsSigned64 at startFits; omega, sumFits, sum⟩
  · rintro ⟨bounded, sumFits, sum⟩
    exact ⟨lineStart, ⟨⟨by omega, by omega⟩, rfl⟩, sumFits, sum⟩

namespace Span

variable {span : Span} {index : LineIndex} {first last : Nat}

private theorem toInt_bounds (value : Int64) :
    -0x8000000000000000 ≤ value.toInt ∧ value.toInt < 0x8000000000000000 := by
  have above := value.le_toInt
  have below := value.toInt_lt
  exact ⟨by omega, by omega⟩

/-- The checked start of a span is its exact start, provided that no number on the way to it leaves
the signed 64-bit numbers. -/
theorem checkedStart_eq_some_iff {result : Int} :
    (signed64? (span.startColumn.toInt - 1)).bind (offsetPlus? first) = some result ↔
      -0x8000000000000000 < span.startColumn.toInt ∧ first < 0x8000000000000000 ∧
        IsSigned64 (span.startOffset first) ∧ span.startOffset first = result := by
  have bounds := toInt_bounds span.startColumn
  have regroup : (first : Int) + (span.startColumn.toInt - 1) = span.startOffset first := by
    rw [startOffset]
    omega
  simp only [Option.bind_eq_some_iff, signed64?_eq_some_iff]
  constructor
  · rintro ⟨column, ⟨columnFits, rfl⟩, placed⟩
    rw [offsetPlus?_eq_some_iff, regroup] at placed
    exact ⟨by unfold IsSigned64 at columnFits; omega, placed⟩
  · rintro ⟨above, placed⟩
    refine ⟨_, ⟨⟨by omega, by omega⟩, rfl⟩, ?_⟩
    rw [offsetPlus?_eq_some_iff, regroup]
    exact placed

/-- Looking up a line finds its start, or says why there is none. -/
theorem lineStart_eq (line : Int64) :
    lineStart index line =
      match index.startOf? line with
      | some start => .ok start
      | none =>
        if line.toInt < 1 then .error (.invalidLine line)
        else .error (.lineOutOfRange line index.lineCount) := by
  unfold lineStart LineIndex.startOf?
  by_cases invalid : line.toInt < 1
  · rw [if_pos invalid, if_neg (by omega : ¬ 1 ≤ line.toInt)]
    simp only [invalid, ↓reduceIte]
  · rw [if_neg invalid, if_pos (by omega : 1 ≤ line.toInt)]
    cases index.lineStart? (line.toInt - 1).toNat with
    | some start => rfl
    | none => simp only [invalid, ↓reduceIte]

/-- A span whose first line cannot be looked up fails for that reason. -/
theorem place_of_startLine {error : PlacementError}
    (missing : lineStart index span.startLine = .error error) :
    span.place index = .error error := by
  rw [place, missing]
  rfl

/-- A span whose first line exists and whose last line cannot be looked up fails for that reason. -/
theorem place_of_endLine {error : PlacementError}
    (found : index.startOf? span.startLine = some first)
    (missing : lineStart index span.endLine = .error error) :
    span.place index = .error error := by
  rw [place, lineStart_eq span.startLine, found, missing]
  rfl

/-- Once both lines exist and nothing overflows, the exact ends decide. -/
theorem place_of_fits (foundFirst : index.startOf? span.startLine = some first)
    (foundLast : index.startOf? span.endLine = some last) (fits : span.Fits first last) :
    span.place index =
      if span.startOffset first > span.stopOffset last then
        .error (.inverted (span.startOffset first) (span.stopOffset last))
      else if 0 ≤ span.startOffset first ∧ 0 ≤ span.stopOffset last ∧
          span.stopOffset last ≤ index.length then
        .ok ⟨(span.startOffset first).toNat, (span.stopOffset last).toNat⟩
      else .error (.outOfBounds (span.startOffset first) (span.stopOffset last) index.length) := by
  have start := checkedStart_eq_some_iff.mpr ⟨fits.column, fits.first_lt, fits.start, rfl⟩
  have stop : offsetPlus? last span.endColumn.toInt = some (span.stopOffset last) :=
    offsetPlus?_eq_some_iff.mpr ⟨fits.last_lt, fits.stop, rfl⟩
  rw [place, lineStart_eq span.startLine, lineStart_eq span.endLine, foundFirst, foundLast]
  simp only [bind, Except.bind, start, stop]

/-- Once both lines exist and something overflows, the raw columns are reported. -/
theorem place_of_not_fits (foundFirst : index.startOf? span.startLine = some first)
    (foundLast : index.startOf? span.endLine = some last) (overflow : ¬ span.Fits first last) :
    span.place index =
      .error (.outOfBounds span.startColumn.toInt span.endColumn.toInt index.length) := by
  rw [place, lineStart_eq span.startLine, lineStart_eq span.endLine, foundFirst, foundLast]
  simp only [bind, Except.bind]
  split
  · next start stop startFound stopFound =>
      obtain ⟨column, firstBound, startFits, -⟩ := checkedStart_eq_some_iff.mp startFound
      obtain ⟨lastBound, stopFits, -⟩ := offsetPlus?_eq_some_iff.mp stopFound
      exact (overflow ⟨column, firstBound, lastBound, startFits, stopFits⟩).elim
  · rfl

/-- A range comes of a span only in exact arithmetic. -/
theorem names_of_place {range : TextRange} (placed : span.place index = .ok range) :
    span.Names index range := by
  cases foundFirst : index.startOf? span.startLine with
  | none =>
      rw [place, lineStart_eq span.startLine, foundFirst] at placed
      dsimp only at placed
      split at placed <;> cases placed
  | some first =>
      cases foundLast : index.startOf? span.endLine with
      | none =>
          rw [place, lineStart_eq span.startLine, foundFirst, lineStart_eq span.endLine,
            foundLast] at placed
          dsimp only at placed
          split at placed <;> cases placed
      | some last =>
          by_cases fits : span.Fits first last
          · rw [place_of_fits foundFirst foundLast fits] at placed
            split at placed
            · cases placed
            · next ordered =>
                split at placed
                · next inside =>
                    obtain rfl := Except.ok.inj placed
                    refine ⟨first, last, foundFirst, foundLast, ?_, ?_, ?_, ?_⟩
                    all_goals simp only
                    all_goals omega
                · cases placed
          · rw [place_of_not_fits foundFirst foundLast fits] at placed
            cases placed

/-- An index of signed 64-bit numbers makes every sum fit that ends inside the text. -/
theorem fits_of_isSigned (signed : index.IsSigned)
    (foundFirst : index.startOf? span.startLine = some first)
    (foundLast : index.startOf? span.endLine = some last)
    (nonnegative : 0 ≤ span.startOffset first)
    (ordered : span.startOffset first ≤ span.stopOffset last)
    (inside : span.stopOffset last ≤ index.length) : span.Fits first last := by
  have bound : ∀ {line : Int64} {start : Nat}, index.startOf? line = some start →
      start < 0x8000000000000000 := by
    intro line start found
    unfold LineIndex.startOf? at found
    split at found
    · exact signed.start_lt _ _ found
    · cases found
  have lengthBound := signed.length_lt
  have firstBound := bound foundFirst
  refine ⟨?_, firstBound, bound foundLast, ⟨by omega, by omega⟩, ⟨by omega, by omega⟩⟩
  unfold startOffset at nonnegative
  omega

/-- What is named in exact arithmetic is placed, if the index has signed 64-bit numbers only. -/
theorem place_of_names {range : TextRange} (signed : index.IsSigned)
    (named : span.Names index range) : span.place index = .ok range := by
  obtain ⟨first, last, foundFirst, foundLast, start, stop, ordered, inside⟩ := named
  have fits := fits_of_isSigned signed foundFirst foundLast (by omega) (by omega) (by omega)
  rw [place_of_fits foundFirst foundLast fits, if_neg (by omega), if_pos (by omega), ← start,
    ← stop]
  rfl

end Span

/-- The index of a document has signed 64-bit numbers only, if the length of the document is one. -/
theorem Document.lineIndex_isSigned {doc : Document} (bounded : doc.length < 0x8000000000000000) :
    doc.lineIndex.IsSigned where
  length_lt := bounded
  start_lt := fun _ _ found => Nat.lt_of_le_of_lt (Document.lineStart?_le found) bounded

namespace Span

variable {span : Span} {index : LineIndex} {first last : Nat}

/-- A span with both lines is inverted if its exact ends are, as long as nothing overflows. -/
theorem place_eq_inverted_iff (foundFirst : index.startOf? span.startLine = some first)
    (foundLast : index.startOf? span.endLine = some last) {start stop : Int} :
    span.place index = .error (.inverted start stop) ↔
      span.Fits first last ∧ span.stopOffset last < span.startOffset first ∧
        start = span.startOffset first ∧ stop = span.stopOffset last := by
  by_cases fits : span.Fits first last
  · rw [place_of_fits foundFirst foundLast fits]
    by_cases inverted : span.startOffset first > span.stopOffset last
    · rw [if_pos inverted, Except.error.injEq, PlacementError.inverted.injEq]
      exact ⟨fun ⟨same, same'⟩ => ⟨fits, inverted, same.symm, same'.symm⟩,
        fun ⟨_, _, same, same'⟩ => ⟨same.symm, same'.symm⟩⟩
    · rw [if_neg inverted]
      refine ⟨fun placed => ?_, fun ⟨_, below, _⟩ => (inverted below).elim⟩
      split at placed <;> cases placed
  · rw [place_of_not_fits foundFirst foundLast fits]
    refine ⟨fun placed => ?_, fun ⟨fits', _⟩ => (fits fits').elim⟩
    cases placed

/-- A span with both lines that is neither placed nor inverted is out of bounds. -/
theorem place_eq_outOfBounds (foundFirst : index.startOf? span.startLine = some first)
    (foundLast : index.startOf? span.endLine = some last)
    (unplaced : ∀ range, span.place index ≠ .ok range)
    (upright : ¬ (span.Fits first last ∧ span.stopOffset last < span.startOffset first)) :
    ∃ start stop, span.place index = .error (.outOfBounds start stop index.length) ∧
      (span.Fits first last ∧ start = span.startOffset first ∧ stop = span.stopOffset last ∨
        ¬ span.Fits first last ∧ start = span.startColumn.toInt ∧
          stop = span.endColumn.toInt) := by
  by_cases fits : span.Fits first last
  · have ordered : ¬ span.startOffset first > span.stopOffset last :=
      fun inverted => upright ⟨fits, inverted⟩
    have placed := place_of_fits foundFirst foundLast fits
    rw [if_neg ordered] at placed
    split at placed
    · exact (unplaced _ placed).elim
    · exact ⟨_, _, placed, .inl ⟨fits, rfl, rfl⟩⟩
  · exact ⟨_, _, place_of_not_fits foundFirst foundLast fits, .inr ⟨fits, rfl, rfl⟩⟩

/-- **Placing is exact.** A range comes of a span only in exact arithmetic, and every range that is
named in exact arithmetic is found, over any index of signed 64-bit numbers and so over any
document. What fails, fails for the first reason that applies: the first line, the last line, ends
that are inverted although nothing overflows, and offsets out of bounds in all other cases. -/
theorem place_exactly (span : Span) (index : LineIndex) :
    (∀ range, span.place index = .ok range → span.Names index range) ∧
    (index.IsSigned → ∀ range, span.Names index range → span.place index = .ok range) ∧
    (∀ doc : Document, doc.length < 0x8000000000000000 → doc.lineIndex.IsSigned) ∧
    (span.startLine.toInt < 1 → span.place index = .error (.invalidLine span.startLine)) ∧
    (1 ≤ span.startLine.toInt → index.startOf? span.startLine = none →
      span.place index = .error (.lineOutOfRange span.startLine index.lineCount)) ∧
    ∀ first, index.startOf? span.startLine = some first →
      (span.endLine.toInt < 1 → span.place index = .error (.invalidLine span.endLine)) ∧
      (1 ≤ span.endLine.toInt → index.startOf? span.endLine = none →
        span.place index = .error (.lineOutOfRange span.endLine index.lineCount)) ∧
      ∀ last, index.startOf? span.endLine = some last →
        (∀ start stop, span.place index = .error (.inverted start stop) ↔
          span.Fits first last ∧ span.stopOffset last < span.startOffset first ∧
            start = span.startOffset first ∧ stop = span.stopOffset last) ∧
        ((∀ range, span.place index ≠ .ok range) →
          ¬ (span.Fits first last ∧ span.stopOffset last < span.startOffset first) →
          ∃ start stop, span.place index = .error (.outOfBounds start stop index.length) ∧
            (span.Fits first last ∧ start = span.startOffset first ∧
                stop = span.stopOffset last ∨
              ¬ span.Fits first last ∧ start = span.startColumn.toInt ∧
                stop = span.endColumn.toInt)) := by
  have invalid : ∀ line : Int64, line.toInt < 1 →
      lineStart index line = .error (.invalidLine line) := by
    intro line below
    rw [lineStart, if_pos below]
  have missing : ∀ line : Int64, 1 ≤ line.toInt → index.startOf? line = none →
      lineStart index line = .error (.lineOutOfRange line index.lineCount) := by
    intro line valid absent
    rw [lineStart_eq, absent]
    exact if_neg (by omega)
  refine ⟨fun _ => names_of_place, fun signed _ => place_of_names signed,
    fun _ => Document.lineIndex_isSigned, fun below => place_of_startLine (invalid _ below),
    fun valid absent => place_of_startLine (missing _ valid absent), ?_⟩
  intro first foundFirst
  refine ⟨fun below => place_of_endLine foundFirst (invalid _ below),
    fun valid absent => place_of_endLine foundFirst (missing _ valid absent), ?_⟩
  intro last foundLast
  exact ⟨fun _ _ => place_eq_inverted_iff foundFirst foundLast,
    place_eq_outOfBounds foundFirst foundLast⟩

/-- In a text of two lines, a span over both is placed and the least start column is refused. -/
theorem place_exactly_on_two_lines :
    let doc : Document := { chars := ['a', '\n', 'b', '\n'] }
    doc.lineIndex.IsSigned ∧
      (⟨1, 1, 2, 1⟩ : Span).place doc.lineIndex = .ok ⟨0, 3⟩ ∧
      ∃ start stop, (⟨2, Int64.minValue, 2, 1⟩ : Span).place doc.lineIndex =
        .error (.outOfBounds start stop 4) := by
  intro doc
  have signed : doc.lineIndex.IsSigned :=
    (place_exactly ⟨1, 1, 2, 1⟩ doc.lineIndex).2.2.1 doc (by decide)
  refine ⟨signed, ?_, ?_⟩
  · exact (place_exactly ⟨1, 1, 2, 1⟩ doc.lineIndex).2.1 signed ⟨0, 3⟩
      ⟨0, 2, by decide, by decide, by decide, by decide, by decide, by decide⟩
  · let extreme : Span := ⟨2, Int64.minValue, 2, 1⟩
    obtain ⟨names, -, -, -, -, errors⟩ := place_exactly extreme doc.lineIndex
    have found : doc.lineIndex.startOf? 2 = some 2 := by decide
    have unplaced : ∀ range, extreme.place doc.lineIndex ≠ .ok range := by
      intro range placed
      obtain ⟨first, last, foundFirst, -, starts, -⟩ := names range placed
      obtain rfl := Option.some.inj (foundFirst.symm.trans found)
      have below : extreme.startOffset 2 < 0 := by decide
      omega
    have overflow : ¬ extreme.Fits 2 2 := fun fits => absurd fits.column (by decide)
    obtain ⟨start, stop, refused, -⟩ :=
      ((errors 2 found).2.2 2 found).2 unplaced fun ⟨fits, _⟩ => overflow fits
    exact ⟨start, stop, refused⟩

end Span

end FlowCheck
