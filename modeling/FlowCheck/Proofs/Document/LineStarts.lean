import FlowCheck.Document.LineIndex
import Mathlib.Algebra.GroupWithZero.Nat

/-! # Where the lines of a text start

The table of line starts is zero followed by the offset behind each newline, so facts about it are
inductions over the text. No line starts behind the end of its text.
-/

namespace FlowCheck

variable {width : Char → Nat}

/-- The offsets just behind the newlines of a text that begins at an offset. -/
def newlineEnds (width : Char → Nat) : Nat → List Char → List Nat
  | _, [] => []
  | offset, c :: rest =>
    if c = '\n' then (offset + width c) :: newlineEnds width (offset + width c) rest
    else newlineEnds width (offset + width c) rest

private theorem scan_starts (chars : List Char) (offset : Nat) (starts : Array Nat) :
    (chars.foldl (fun (offset, starts) c =>
      let next := offset + width c
      (next, if c = '\n' then starts.push next else starts)) (offset, starts)).2.toList =
        starts.toList ++ newlineEnds width offset chars := by
  induction chars generalizing offset starts with
  | nil => simp only [List.foldl_nil, newlineEnds, List.append_nil]
  | cons c rest ih =>
      rw [List.foldl_cons, ih]
      by_cases newline : c = '\n'
      · simp only [newline, ↓reduceIte, newlineEnds, Array.toList_push, List.append_assoc,
          List.cons_append, List.nil_append]
      · simp only [newline, ↓reduceIte, newlineEnds]

/-- The first line starts at zero, every other one behind a newline. -/
theorem lineStarts_toList (width : Char → Nat) (chars : List Char) :
    (lineStarts width chars).toList = 0 :: newlineEnds width 0 chars := by
  rw [lineStarts, scan_starts]
  rfl

/-- A newline of a text ends within the text. -/
theorem le_of_mem_newlineEnds {chars : List Char} {offset start : Nat}
    (member : start ∈ newlineEnds width offset chars) :
    start ≤ offset + (chars.map width).sum := by
  induction chars generalizing offset with
  | nil => cases member
  | cons c rest ih =>
      rw [List.map_cons, List.sum_cons, ← Nat.add_assoc]
      by_cases newline : c = '\n'
      · rw [newlineEnds, if_pos newline] at member
        rcases List.mem_cons.mp member with first | later
        · rw [first]
          exact Nat.le_add_right ..
        · exact ih later
      · rw [newlineEnds, if_neg newline] at member
        exact ih member

/-- No line of a text starts behind the end of the text. -/
theorem lineStarts_le {chars : List Char} {line start : Nat}
    (found : (lineStarts width chars)[line]? = some start) :
    start ≤ (chars.map width).sum := by
  have member : start ∈ (lineStarts width chars).toList :=
    Array.mem_toList_iff.mpr (Array.mem_of_getElem? found)
  rw [lineStarts_toList] at member
  rcases List.mem_cons.mp member with first | later
  · rw [first]
    exact Nat.zero_le _
  · simpa only [Nat.zero_add] using le_of_mem_newlineEnds later

/-- No line of a document starts behind its end. -/
theorem Document.lineStart?_le {doc : Document} {line start : Nat}
    (found : doc.lineStart? line = some start) : start ≤ doc.length := by
  rw [Document.lineStart?, doc.starts_eq] at found
  have bound := lineStarts_le found
  rwa [List.map_const', List.sum_replicate_nat, Nat.mul_one, ← doc.length_eq] at bound

end FlowCheck
