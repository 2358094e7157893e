import FlowCheck.Proofs.Document.Position
import Mathlib.Data.Prod.Lex
import Mathlib.Order.Hom.Set

/-! # Positions in order

Lines start in order, so the search for an offset ends behind a line that starts in time, and
nothing that is computed from it goes below zero. Each offset of a text, its end included, has a
position of its own, and each place on a line, its end included, is the position of an offset. Going
from one to the other keeps the order, if places are ordered by their lines first.
-/

namespace FlowCheck

/-- A position among all pairs of a line and a column, which are ordered by their lines first. -/
def Position.place (position : Position) : ℕ ×ₗ ℕ :=
  toLex (position.line, position.column)

namespace Document

variable {doc : Document} {offset later : Nat} {position other : Position}

/-- The places of a document: on each of its lines, every column and the end of the line. -/
def places (doc : Document) : Set (ℕ ×ₗ ℕ) :=
  {place | (ofLex place).1 < doc.lineCount ∧
    ∃ text, doc.line? (ofLex place).1 = some text ∧ (ofLex place).2 ≤ text.length}

/-! ## Starts of lines -/

private theorem lineStart?_zero (doc : Document) : doc.lineStart? 0 = some 0 := by
  have nonempty : 0 < doc.lines.length :=
    List.length_pos_iff.mpr (List.splitOn_ne_nil '\n' doc.chars)
  have isLine : doc.line? 0 = some doc.lines[0] := List.getElem?_eq_getElem nonempty
  exact lineStart?_of_line? isLine

/-- Lines start in order, and no two at the same offset. -/
theorem lineStart?_lt {first last start next : Nat} (ordered : first < last)
    (isStart : doc.lineStart? first = some start) (isNext : doc.lineStart? last = some next) :
    start < next := by
  obtain ⟨text, isLine, rfl⟩ := line?_of_lineStart? isStart
  obtain ⟨_, -, rfl⟩ := line?_of_lineStart? isNext
  have behind := length_before_le doc (show first + 1 ≤ last from ordered)
  rw [length_before_succ isLine] at behind
  omega

/-- What the search for an offset ends at: a line that starts at the offset or before it, while all
later lines start behind it. -/
structure FindsLine (doc : Document) (offset line start : Nat) : Prop where
  found : countAtMost doc.starts offset 0 doc.starts.size = line + 1
  isStart : doc.lineStart? line = some start
  reached : start ≤ offset
  unpassed : ∀ later next, line < later → doc.lineStart? later = some next → offset < next

/-- The search never ends in front of the first line. -/
theorem exists_findsLine (doc : Document) (offset : Nat) :
    ∃ line start, doc.FindsLine offset line start := by
  obtain ⟨line, found, inside, reached, unpassed⟩ := doc.countAtMost_starts offset
  have isLine : doc.line? line = some doc.lines[line] := List.getElem?_eq_getElem inside
  refine ⟨line, _, found, lineStart?_of_line? isLine, reached, fun later next behind isNext => ?_⟩
  obtain ⟨_, isText, rfl⟩ := line?_of_lineStart? isNext
  obtain ⟨inLines, -⟩ := List.getElem?_eq_some_iff.mp isText
  exact Nat.lt_of_lt_of_le (unpassed (by omega)) (length_before_le doc behind)

/-- The position of an offset is on the line that is found for it. -/
theorem FindsLine.position? {line start : Nat} (finds : doc.FindsLine offset line start)
    (inText : offset ≤ doc.length) : doc.position? offset = some ⟨line, offset - start⟩ := by
  have isStart := finds.isStart
  rw [lineStart?] at isStart
  rw [Document.position?, if_pos inText, finds.found, Nat.add_sub_cancel]
  dsimp only
  rw [Array.getD_eq_getD_getElem?, isStart, Option.getD_some]

/-! ## Offsets and places -/

/-- The offsets with a position are those in the text. -/
theorem isSome_position?_iff : (doc.position? offset).isSome = true ↔ offset ≤ doc.length := by
  constructor
  · intro defined
    obtain ⟨position, isPosition⟩ := Option.isSome_iff_exists.mp defined
    rw [position?, Option.ite_none_right_eq_some] at isPosition
    exact isPosition.1
  · intro inText
    obtain ⟨position, isPosition⟩ := exists_position inText
    rw [isPosition, Option.isSome_some]

private theorem place_mem_places (isPosition : doc.position? offset = some position) :
    position.place ∈ doc.places := by
  obtain ⟨text, isLine, onLine, -⟩ := position?_eq_some_iff.mp isPosition
  obtain ⟨inside, -⟩ := List.getElem?_eq_some_iff.mp isLine
  exact ⟨by rw [lineCount_eq]; exact inside, text, isLine, onLine⟩

/-- A later offset has a later place. -/
theorem place_lt_place (isPosition : doc.position? offset = some position)
    (isOther : doc.position? later = some other) (ordered : offset < later) :
    position.place < other.place := by
  have lines := line_le_of_le isPosition isOther (Nat.le_of_lt ordered)
  obtain ⟨_, -, -, rfl⟩ := position?_eq_some_iff.mp isPosition
  obtain ⟨_, -, -, rfl⟩ := position?_eq_some_iff.mp isOther
  rw [Position.place, Position.place, Prod.Lex.toLex_lt_toLex]
  rcases Nat.lt_or_eq_of_le lines with earlier | same
  · exact .inl earlier
  · rw [same] at ordered
    exact .inr ⟨same, Nat.lt_of_add_lt_add_left ordered⟩

/-- The place of an offset of the text. -/
def placeOf (doc : Document) (offset : Set.Iic doc.length) : doc.places :=
  let position := (doc.position? offset).get (isSome_position?_iff.mpr offset.2)
  ⟨position.place, place_mem_places (Option.some_get _).symm⟩

private theorem placeOf_eq (doc : Document) (offset : Set.Iic doc.length) :
    (doc.position? offset).map Position.place = some (doc.placeOf offset) := by
  rw [← Option.some_get (isSome_position?_iff.mpr offset.2), Option.map_some]
  rfl

/-- Later offsets have later places. -/
theorem placeOf_strictMono (doc : Document) : StrictMono doc.placeOf := by
  intro offset later ordered
  exact place_lt_place (Option.some_get _).symm (Option.some_get _).symm ordered

/-- Every place is that of the offset which lies its column behind the start of its line. -/
theorem exists_placeOf_eq (place : doc.places) :
    ∃ start, doc.lineStart? (ofLex place.1).1 = some start ∧
      ∃ offset : Set.Iic doc.length,
        offset.1 = start + (ofLex place.1).2 ∧ doc.placeOf offset = place := by
  obtain ⟨place, inside⟩ := place
  obtain ⟨-, text, isLine, onLine⟩ := inside
  have isPosition : doc.position? ((doc.before (ofLex place).1).length + (ofLex place).2) =
      some ⟨(ofLex place).1, (ofLex place).2⟩ :=
    position?_eq_some_iff.mpr ⟨text, isLine, onLine, rfl⟩
  have inText := isSome_position?_iff.mp (Option.isSome_iff_exists.mpr ⟨_, isPosition⟩)
  refine ⟨_, lineStart?_of_line? isLine, ⟨_, inText⟩, rfl, ?_⟩
  have same := doc.placeOf_eq ⟨_, inText⟩
  rw [isPosition] at same
  exact Subtype.ext (Option.some.inj same).symm

/-- **Positions are the places of a document in order.** The first line starts at zero, every other
one behind those before it, and none behind the end. Exactly the offsets up to the end have
positions. The search for an offset, which may be any number, ends one behind a line, the last that
starts in time, and the position is this line and the distance from its start. The offsets of the
text with their positions are in one order with the places of the document, ordered by lines first,
and back from a place one comes by adding its column to the start of its line. -/
theorem positions_in_order (doc : Document) :
    (doc.lineStart? 0 = some 0 ∧
      (∀ first last start next, first < last → doc.lineStart? first = some start →
        doc.lineStart? last = some next → start < next) ∧
      ∀ line start, doc.lineStart? line = some start → start ≤ doc.length) ∧
    (∀ offset, (doc.position? offset).isSome = true ↔ offset ≤ doc.length) ∧
    (∀ offset, ∃ line start, doc.FindsLine offset line start ∧
      (offset ≤ doc.length → doc.position? offset = some ⟨line, offset - start⟩)) ∧
    ∃ order : Set.Iic doc.length ≃o doc.places,
      (∀ offset : Set.Iic doc.length,
        (doc.position? offset).map Position.place = some (order offset).1) ∧
      ∀ place, ∃ start, doc.lineStart? (ofLex place.1).1 = some start ∧
        (order.symm place).1 = start + (ofLex place.1).2 := by
  refine ⟨⟨doc.lineStart?_zero, fun _ _ _ _ => lineStart?_lt, fun _ _ => lineStart?_le⟩,
    fun _ => isSome_position?_iff, fun offset => ?_, ?_⟩
  · obtain ⟨line, start, finds⟩ := doc.exists_findsLine offset
    exact ⟨line, start, finds, finds.position?⟩
  · have onto : Function.Surjective doc.placeOf := by
      intro place
      obtain ⟨-, -, offset, -, same⟩ := exists_placeOf_eq place
      exact ⟨offset, same⟩
    let order := doc.placeOf_strictMono.orderIsoOfSurjective _ onto
    refine ⟨order, doc.placeOf_eq, fun place => ?_⟩
    obtain ⟨start, isStart, offset, isOffset, same⟩ := exists_placeOf_eq place
    have back : order.symm place = offset := order.symm_apply_eq.mpr same.symm
    exact ⟨start, isStart, by rw [back, isOffset]⟩

end Document

end FlowCheck
