import FlowCheck.Proofs.Yaml.Place
import FlowCheck.Yaml.Token.Scalar

/-! # Blocks are read back

The lines of a block are a text with a margin before each line that is not empty. A reader that
knows the margin's width takes the text up again character by character. At its end the sign in the
block's header says which breaks belong to the text.
-/

namespace FlowCheck.Yaml

namespace BlockText

/-- A block after one more character of its text. -/
def next (block : BlockText) (c : Char) : BlockText :=
  if isBreak c then
    if block.inLine then { block with lineBreak := some c, inLine := false }
    else { block with breaks := c :: block.breaks }
  else if block.inLine then { block with text := c :: block.text }
  else block.beginLine true c

/-- What has been read of a text, with all breaks. -/
def content (block : BlockText) : List Char :=
  block.text.reverse ++ block.lineBreak.toList ++ block.breaks.reverse

/-- Within a line no break is left to be joined to the text. -/
def IsJoined (block : BlockText) : Prop :=
  block.inLine = true → block.lineBreak = none ∧ block.breaks = []

section Next

variable {block : BlockText} {c : Char}

private theorem inLine_next (block : BlockText) (c : Char) :
    (block.next c).inLine = !isBreak c := by
  unfold next
  cases isBreak c <;> cases inLine : block.inLine <;> simp [beginLine]

private theorem indent_next (block : BlockText) (c : Char) :
    (block.next c).indent = block.indent := by
  unfold next
  cases isBreak c <;> cases block.inLine <;> rfl

private theorem IsJoined.next (joined : block.IsJoined) (c : Char) : (block.next c).IsJoined := by
  unfold IsJoined BlockText.next
  cases isBreak c <;> cases inLine : block.inLine
  · simp [beginLine]
  · simpa using joined inLine
  · simp
  · simp

private theorem content_next (joined : block.IsJoined) (c : Char) :
    (block.next c).content = block.content ++ [c] := by
  unfold BlockText.next
  cases isBreak c <;> cases inLine : block.inLine
  · cases lineBreak : block.lineBreak <;> simp [beginLine, content, lineBreak]
  · simp [content, joined inLine]
  · simp [content]
  · simp [content, joined inLine]

end Next

private theorem indent_foldl (block : BlockText) (text : List Char) :
    (text.foldl next block).indent = block.indent := by
  induction text generalizing block with
  | nil => rfl
  | cons c rest ih => exact (ih (block.next c)).trans (block.indent_next c)

private theorem isJoined_foldl {block : BlockText} (joined : block.IsJoined) (text : List Char) :
    (text.foldl next block).IsJoined := by
  induction text generalizing block with
  | nil => exact joined
  | cons c rest ih => exact ih (joined.next c)

/-- The content of a block whose lines are joined grows by a text. -/
theorem content_foldl {block : BlockText} (joined : block.IsJoined) (text : List Char) :
    (text.foldl next block).content = block.content ++ text := by
  induction text generalizing block with
  | nil => simp
  | cons c rest ih => simp [ih (joined.next c), content_next joined]

end BlockText

/-- A line break at the end is not indented. -/
theorem indentLines_concat {last : Char} (ends : isBreak last = true) (fresh : Bool)
    (text : List Char) : indentLines fresh (text ++ [last]) = indentLines fresh text ++ [last] := by
  induction text generalizing fresh with
  | nil => simp [indentLines, ends]
  | cons c rest ih => cases fresh <;> simp [indentLines, ih, apply_ite (· ++ [last])]

/-! ## Reading lines -/

section Lines

variable {block : BlockText} {mark : Mark} {c : Char}

private theorem readBlock_break (indent : block.indent = some 2)
    (place : block.inLine = false → mark.column = 0) (ends : isBreak c = true) (rest : List Char) :
    readBlock true 1 block mark (c :: rest) =
      readBlock true 1 (block.next c) (mark.after c) rest := by
  have noBlank : c ≠ ' ' ∧ c ≠ '\t' := by
    constructor <;> rintro rfl <;> exact absurd ends (by decide)
  rw [readBlock, BlockText.next]
  cases inLine : block.inLine with
  | true => simp [ends]
  | false => simp [ends, noBlank, indent, place inLine]

private theorem readBlock_inLine (inLine : block.inLine = true) (inside : isBreak c = false)
    (rest : List Char) :
    readBlock true 1 block mark (c :: rest) =
      readBlock true 1 (block.next c) (mark.after c) rest := by
  simp [readBlock, BlockText.next, inLine, inside]

/-- The first character of a line is read behind its margin. If the margin's width is not known yet,
it is the column of this character. -/
theorem readBlock_margin (outside : block.inLine = false) (place : mark.column = 0)
    (depth : block.indent = some 2 ∨
      block.indent = none ∧ block.deepest = 0 ∧ isBlank c = false)
    (inside : isBreak c = false) (rest : List Char) :
    readBlock true 1 block mark (lineIndent ++ c :: rest) =
      readBlock true 1 (({ block with indent := some 2 } : BlockText).next c)
        (mark.past (lineIndent ++ [c])) rest := by
  have one : (mark.after ' ').column = 1 := by rw [Mark.column_after rfl, place]
  have two : ((mark.after ' ').after ' ').column = 2 := by rw [Mark.column_after rfl, one]
  rcases depth with indent | ⟨indent, deepest, noBlank⟩
  · simp [lineIndent, readBlock, outside, indent, place, one, two, inside, BlockText.depth,
      BlockText.next]
  · have noSpace := isBlank_eq_false_iff.mp noBlank
    simp [lineIndent, readBlock, outside, indent, one, two, inside, BlockText.depth, noSpace,
      deepest, BlockText.next]

/-- The indented lines of a block are read to its content. -/
theorem readBlock_lines (indent : block.indent = some 2)
    (place : block.inLine = false → mark.column = 0) (text ending : List Char) :
    readBlock true 1 block mark (indentLines (!block.inLine) text ++ ending) =
      readBlock true 1 (text.foldl .next block) (mark.past (indentLines (!block.inLine) text))
        ending := by
  induction text generalizing block mark with
  | nil => rfl
  | cons c rest ih =>
      have indentNext : (block.next c).indent = some 2 := by rw [block.indent_next, indent]
      have inLineNext : (block.next c).inLine = !isBreak c := block.inLine_next c
      have nextPlace : ∀ {later : Mark}, (isBreak c = true → later.column = 0) →
          (block.next c).inLine = false → later.column = 0 := by
        intro later broken outside
        rw [inLineNext, Bool.not_eq_false'] at outside
        exact broken outside
      cases ends : isBreak c with
      | true =>
          have column : (mark.after c).column = 0 := Mark.column_after_of_break ends mark
          have later := ih indentNext (nextPlace fun _ => column)
          rw [inLineNext, ends] at later
          have written : indentLines (!block.inLine) (c :: rest) = c :: indentLines true rest := by
            simp [indentLines, ends]
          rw [written, List.cons_append, readBlock_break indent place ends]
          exact later
      | false =>
          have anywhere : ∀ later : Mark, (block.next c).inLine = false → later.column = 0 := by
            intro later outside
            rw [inLineNext, ends] at outside
            cases outside
          rw [indentLines_cons ends, List.append_assoc, List.cons_append, Mark.past_append]
          cases inLine : block.inLine with
          | true =>
              have later := ih indentNext (anywhere (mark.after c))
              rw [inLineNext, ends] at later
              exact (readBlock_inLine inLine ends _).trans later
          | false =>
              have known : ({ block with indent := some 2 } : BlockText) = block := by
                rw [← indent]
              have begun := readBlock_margin inLine (place inLine) (.inl indent) ends
                (indentLines false rest ++ ending)
              have later := ih indentNext (anywhere (mark.past (lineIndent ++ [c])))
              rw [inLineNext, ends] at later
              rw [known] at begun
              exact begun.trans later

end Lines

/-- A block ends before a line that is not as deep as its own lines. -/
theorem readBlock_end {block : BlockText} (indent : block.indent = some 2)
    (outside : block.inLine = false) {mark : Mark} (place : mark.column = 0) {rest : List Char}
    (starts : StartsLine rest) : readBlock true 1 block mark rest = some (block, ⟨rest, mark⟩) := by
  cases rest with
  | nil => rfl
  | cons c rest =>
      obtain ⟨noBlank, noBreak, -⟩ := starts c rfl
      have noSpace := isBlank_eq_false_iff.mp noBlank
      simp [readBlock, outside, noSpace, noBreak, indent, place, BlockText.depth]

/-- A text that ends in a break is read from the lines of a block. Their depth need not be told if
the first line shows it. -/
theorem readBlock_text {init : List Char} {last : Char} (ends : isBreak last = true)
    {indent : Option Nat}
    (told : indent = some 2 ∨ indent = none ∧
      ∃ first more, init = first :: more ∧ isBlank first = false ∧ isBreak first = false)
    {mark : Mark} (place : mark.column = 0) {rest : List Char} (starts : StartsLine rest) :
    readBlock true 1 { indent } mark (indentLines true (init ++ [last]) ++ rest) =
      some ((init ++ [last]).foldl .next { indent := some 2 },
        ⟨rest, mark.past (indentLines true (init ++ [last]))⟩) := by
  have known : readBlock true 1 { indent := some 2 } mark
      (indentLines true (init ++ [last]) ++ rest) =
      some ((init ++ [last]).foldl .next { indent := some 2 },
        ⟨rest, mark.past (indentLines true (init ++ [last]))⟩) := by
    have read : readBlock true 1 { indent := some 2 } mark
        (indentLines true (init ++ [last]) ++ rest) = readBlock true 1 _ _ rest :=
      readBlock_lines rfl (fun _ => place) (init ++ [last]) rest
    have column : (mark.past (indentLines true (init ++ [last]))).column = 0 := by
      rw [indentLines_concat ends, Mark.past_append]
      exact Mark.column_after_of_break ends _
    have outside : ((init ++ [last]).foldl BlockText.next { indent := some 2 }).inLine = false := by
      simp [List.foldl_append, BlockText.inLine_next, ends]
    exact read.trans (readBlock_end (BlockText.indent_foldl _ _) outside column starts)
  rcases told with rfl | ⟨rfl, first, more, rfl, noBlank, noBreak⟩
  · exact known
  · -- The first character of the first line tells the depth.
    have first : ∀ (indent : Option Nat), indent = some 2 ∨ indent = none →
        ∀ behind, readBlock true 1 { indent } mark (lineIndent ++ first :: behind) =
          readBlock true 1 (({ indent := some 2 } : BlockText).next first)
            (mark.past (lineIndent ++ [first])) behind := by
      rintro indent (rfl | rfl) behind
      · exact readBlock_margin rfl place (.inl rfl) noBreak behind
      · exact readBlock_margin rfl place (.inr ⟨rfl, rfl, noBlank⟩) noBreak behind
    rw [← known, List.cons_append, indentLines_cons noBreak, List.append_assoc]
    exact (first none (.inr rfl) _).trans (first (some 2) (.inl rfl) _).symm

/-! ## The sign at the end -/

/-- What has to happen to the breaks at the end of a text. -/
def chompingOf (text : List Char) : Chomping :=
  match text.reverse with
  | [] => .strip
  | last :: before =>
    if !endsLine last then .strip
    else match before with
      | [] => .keep
      | c :: _ => if endsLine c then .keep else .clip

/-- The sign that asks for it. -/
def Chomping.sign : Chomping → List Char
  | .strip => ['-']
  | .clip => []
  | .keep => ['+']

private theorem chompingSign_eq (text : List Char) :
    chompingSign text = (chompingOf text).sign := by
  unfold chompingSign chompingOf
  rcases text.reverse with _ | ⟨last, _ | ⟨c, before⟩⟩
  · rfl
  · cases ends : endsLine last <;> simp [ends, Chomping.sign]
  · cases ends : endsLine last <;> cases endsToo : endsLine c <;>
      simp [ends, endsToo, Chomping.sign]

/-- A written header is read to its chomping and its indentation. -/
theorem blockHeader?_written (deep : Bool) (chomping : Chomping) (rest : List Char) :
    blockHeader? ((if deep then ['2'] else []) ++ chomping.sign ++ '\n' :: rest) =
      some (⟨chomping, if deep then some 2 else none⟩,
        ((if deep then ['2'] else []) ++ chomping.sign).length) := by
  cases deep <;> cases chomping <;> rfl

/-- A text of a block with the break that is written behind it, if it does not end in one. -/
def closedLines (text : List Char) : List Char :=
  if text.getLast?.any endsLine then text else text ++ ['\n']

private theorem isBreak_eq_endsLine {c : Char} (printable : isPrintable c = true) :
    isBreak c = endsLine c := by
  obtain ⟨-, noReturn, noNextLine⟩ := allowed_of_printable printable
  simp [endsLine, noReturn, noNextLine]

/-- The lines of a block end with a line break. -/
theorem closedLines_ends {text : List Char} (printable : ∀ c ∈ text, isPrintable c = true) :
    ∃ init last, closedLines text = init ++ [last] ∧ isBreak last = true := by
  unfold closedLines
  split
  next ends =>
    obtain ⟨last, isLast, endsLast⟩ := (Option.any_eq_true _ _).mp ends
    obtain ⟨init, rfl⟩ := List.getLast?_eq_some_iff.mp isLast
    refine ⟨init, last, rfl, ?_⟩
    rw [isBreak_eq_endsLine (printable last (by simp))]
    exact endsLast
  next => exact ⟨text, '\n', rfl, rfl⟩

private theorem indentLines_closedLines (fresh : Bool) (text : List Char) :
    indentLines fresh (closedLines text) =
      indentLines fresh text ++ (if text.getLast?.any endsLine then [] else ['\n']) := by
  unfold closedLines
  split
  · simp
  · exact indentLines_concat rfl fresh text

namespace BlockText

private theorem chomped_keep (block : BlockText) : block.chomped .keep = block.content := by
  cases lineBreak : block.lineBreak <;> simp [chomped, content, lineBreak]

private theorem IsJoined.content_eq {block : BlockText} (joined : block.IsJoined)
    (inLine : block.inLine = true) : block.content = block.text.reverse := by
  simp [content, joined inLine]

private theorem IsJoined.next_break {block : BlockText} (joined : block.IsJoined)
    (inLine : block.inLine = true) {c : Char} (ends : isBreak c = true) :
    (block.next c).chomped .strip = block.content ∧
      (block.next c).chomped .clip = block.content ++ [c] := by
  rw [joined.content_eq inLine]
  simp [BlockText.next, chomped, ends, inLine]

end BlockText

/-- The sign of a text leaves of its lines what belongs to it. -/
theorem chomped_closedLines {text : List Char} (filled : text ≠ [])
    (printable : ∀ c ∈ text, isPrintable c = true) (indent : Option Nat) :
    ((closedLines text).foldl BlockText.next { indent }).chomped (chompingOf text) = text := by
  have joined : ∀ part : List Char, (part.foldl BlockText.next { indent }).IsJoined :=
    BlockText.isJoined_foldl nofun
  have content : ∀ part : List Char, (part.foldl BlockText.next { indent }).content = part :=
    BlockText.content_foldl nofun
  have inLine : ∀ (part : List Char) (c : Char), isPrintable c = true → endsLine c = false →
      ((part ++ [c]).foldl BlockText.next { indent }).inLine = true := by
    intro part c isPrintable inside
    rw [List.foldl_append, List.foldl_cons, List.foldl_nil, BlockText.inLine_next,
      isBreak_eq_endsLine isPrintable, inside]
    rfl
  have concat : ∀ {part : List Char}, part ≠ [] → ∃ init last, part = init ++ [last] :=
    fun filled => ⟨_, _, (List.dropLast_concat_getLast filled).symm⟩
  obtain ⟨init, last, rfl⟩ := concat filled
  have isPrintable : isPrintable last = true := printable last (by simp)
  cases ends : endsLine last with
  | false =>
      have closed : closedLines (init ++ [last]) = init ++ [last] ++ ['\n'] := by
        simp [closedLines, ends]
      have strip : chompingOf (init ++ [last]) = .strip := by simp [chompingOf, ends]
      have block := (joined (init ++ [last])).next_break (inLine init last isPrintable ends)
        (show isBreak '\n' = true from rfl)
      rw [closed, strip, List.foldl_append, List.foldl_cons, List.foldl_nil, block.1, content]
  | true =>
      have closed : closedLines (init ++ [last]) = init ++ [last] := by simp [closedLines, ends]
      rw [closed]
      by_cases empty : init = []
      · subst empty
        have keep : chompingOf ([] ++ [last]) = .keep := by simp [chompingOf, ends]
        rw [keep, BlockText.chomped_keep, content]
      · obtain ⟨before, c, rfl⟩ := concat empty
        cases endsToo : endsLine c with
        | true =>
            have keep : chompingOf (before ++ [c] ++ [last]) = .keep := by
              simp [chompingOf, ends, endsToo]
            rw [keep, BlockText.chomped_keep, content]
        | false =>
            have clip : chompingOf (before ++ [c] ++ [last]) = .clip := by
              simp [chompingOf, ends, endsToo]
            have block := (joined (before ++ [c])).next_break
              (inLine before c (printable c (by simp)) endsToo)
              ((isBreak_eq_endsLine isPrintable).trans ends)
            rw [clip, List.foldl_append, List.foldl_cons, List.foldl_nil, block.2, content]

/-! ## The whole block -/

/-- Whether the depth of a text's lines has to be told. -/
def hidesDepth (text : List Char) : Bool :=
  text.head?.any fun c => c = ' ' || endsLine c

/-- What stands in the line where a block begins. -/
def headerOf (text : List Char) : List Char :=
  (if hidesDepth text then ['2'] else []) ++ (chompingOf text).sign

/-- A block is written as its header and its indented lines. -/
theorem writeBlock_eq (text : List Char) :
    writeBlock text = '|' :: (headerOf text ++ '\n' :: indentLines true (closedLines text)) := by
  rw [writeBlock, indentLines_closedLines, chompingSign_eq]
  simp only [headerOf, List.append_assoc]
  rfl

/-- The lines of a block are read back as its text. -/
theorem readBlock_written {text : List Char} (filled : text ≠ [])
    (printable : ∀ c ∈ text, isPrintable c = true) {mark : Mark} (place : mark.column = 0)
    {rest : List Char} (starts : StartsLine rest) :
    ∃ block, readBlock true 1 { indent := if hidesDepth text then some 2 else none } mark
        (indentLines true (closedLines text) ++ rest) =
        some (block, ⟨rest, mark.past (indentLines true (closedLines text))⟩) ∧
      block.chomped (chompingOf text) = text := by
  obtain ⟨init, last, same, ends⟩ := closedLines_ends printable
  refine ⟨_, ?_, chomped_closedLines filled printable (some 2)⟩
  rw [same]
  refine readBlock_text ends ?_ place starts
  cases hides : hidesDepth text with
  | true => exact .inl rfl
  | false =>
      -- The first character begins a line that is not empty.
      obtain ⟨first, more, rfl⟩ := List.exists_cons_of_ne_nil filled
      have isPrintable : isPrintable first = true := printable first List.mem_cons_self
      have bare : first ≠ ' ' ∧ endsLine first = false := by simpa [hidesDepth] using hides
      have inside : isBreak first = false := by rw [isBreak_eq_endsLine isPrintable, bare.2]
      have head : (init ++ [last]).head? = some first := by
        rw [← same, closedLines]
        split <;> rfl
      cases init with
      | nil =>
          cases head
          rw [inside] at ends
          cases ends
      | cons c init =>
          cases head
          have noBlank : isBlank first = false := isBlank_eq_false_of_printable isPrintable bare.1
          exact .inr ⟨rfl, first, init, rfl, noBlank, inside⟩

end FlowCheck.Yaml
