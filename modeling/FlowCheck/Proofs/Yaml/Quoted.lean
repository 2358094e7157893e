import FlowCheck.Proofs.Yaml.Plain
import Mathlib.Tactic.Ring

/-! # Quoted texts are read back

In single quotes only the breaks need care: a reader drops the blanks around them, and those that
are written behind a break are there for it to drop. In double quotes every break is escaped, so a
reader never leaves the line.
-/

namespace FlowCheck.Yaml

private theorem spaceBeside_cons (first second : Char → Bool) (c next : Char) (rest : List Char) :
    spaceBeside first second (c :: next :: rest) =
      (first c && second next || spaceBeside first second (next :: rest)) := by
  simp [spaceBeside]

/-! ## Single quotes -/

/-- A character between single quotes. -/
def quotedChar (c : Char) : List Char :=
  if c = '\'' then ['\'', '\''] else [c]

/-- What is written of a text in single quotes from one of its characters on; `fresh` says that the
line has just begun. -/
def singleLines (fresh : Bool) : List Char → List Char
  | [] => margin fresh ++ ['\'']
  | c :: rest =>
    if isBreak c then c :: singleLines true rest
    else margin fresh ++ quotedChar c ++ singleLines false rest

private theorem indentLines_quotedChar {c : Char} (inside : isBreak c = false) (fresh : Bool)
    (rest : List Char) :
    indentLines fresh (quotedChar c ++ rest) =
      margin fresh ++ quotedChar c ++ indentLines false rest := by
  unfold quotedChar
  split
  next quote =>
    subst quote
    simp [indentLines_cons inside, margin]
  next => simp [indentLines_cons inside]

private theorem indentLines_eq_singleLines (fresh : Bool) (text : List Char) :
    indentLines fresh (text.flatMap quotedChar) ++
        margin ((text.getLast?.map isBreak).getD fresh) ++ ['\''] =
      singleLines fresh text := by
  induction text generalizing fresh with
  | nil => rfl
  | cons c rest ih =>
      have last : ((c :: rest).getLast?.map isBreak).getD fresh =
          (rest.getLast?.map isBreak).getD (isBreak c) := by
        cases rest with
        | nil => rfl
        | cons next rest => rw [List.getLast?_cons_cons, List.getLast?_cons]; rfl
      rw [last, singleLines, List.flatMap_cons]
      cases ends : isBreak c with
      | true =>
          have noQuote : quotedChar c = [c] := by
            unfold quotedChar
            split
            next quote => rw [quote] at ends; cases ends
            next => rfl
          simp [noQuote, indentLines, ends, ← ih]
      | false => simp [indentLines_quotedChar ends, ← ih]

/-- Between single quotes a text is written line by line. -/
theorem writeSingle_eq (text : List Char) :
    writeSingle text = '\'' :: singleLines false text := by
  have last : (if text.getLast?.any isBreak then lineIndent else []) =
      margin ((text.getLast?.map isBreak).getD false) := by
    cases text.getLast? <;> rfl
  rw [writeSingle, last, ← indentLines_eq_singleLines]
  simp only [List.append_assoc]
  rfl

/-- The gap that a reader of single quotes has before it behind a character. -/
inductive GapBehind (previous : Char) : Gap → Prop
  | spaces {blanks : List Char} (inside : isBreak previous = false)
      (space : blanks ≠ [] → previous = ' ') : GapBehind previous ⟨blanks, [], false⟩
  | breaks {breaks : List Char} (ends : isBreak previous = true) (filled : breaks ≠ [])
      (kept : '\n' ∉ breaks) : GapBehind previous ⟨[], breaks, false⟩

private theorem fold_eq_self {breaks : List Char} (kept : '\n' ∉ breaks) :
    Gap.fold breaks = breaks := by
  unfold Gap.fold
  split <;> simp_all

private theorem GapBehind.reachesLine {previous : Char} {gap : Gap}
    (behind : GapBehind previous gap) : gap.reachesLine = isBreak previous := by
  cases behind with
  | spaces inside => rw [inside]; rfl
  | breaks ends filled => simp [ends, Gap.reachesLine, filled]

/-- The blanks at the beginning of a line are passed over. -/
theorem readSingleQuoted_indent {gap : Gap} (reaches : gap.reachesLine = true) (mark : Mark)
    (text rest : List Char) :
    readSingleQuoted mark text gap false (lineIndent ++ rest) =
      readSingleQuoted (mark.past lineIndent) text gap false rest := by
  have blank : gap.add ' ' = gap := by
    simp [Gap.add, reaches, isBreak]
  simp [lineIndent, readSingleQuoted, isBlank, blank]

/-- A quoted character is read back, with the gap before it. -/
theorem readSingleQuoted_char {c : Char} (noBlank : isBlank c = false) (noBreak : isBreak c = false)
    {mark : Mark} (right : 0 < mark.column) (text : List Char) (gap : Gap) (rest : List Char) :
    readSingleQuoted mark text gap false (quotedChar c ++ rest) =
      readSingleQuoted (mark.past (quotedChar c)) (c :: (gap.text.reverse ++ text)) {} false
        rest := by
  unfold quotedChar
  split
  next quote =>
    subst quote
    simp [readSingleQuoted, isBlank, isBreak, atDocumentMarker_eq_false right]
  next ordinary =>
    simp [readSingleQuoted, noBlank, noBreak, atDocumentMarker_eq_false right, ordinary]

private theorem quotedChar_inside {c : Char} (noBreak : isBreak c = false) :
    ∀ written ∈ quotedChar c, isBreak written = false := by
  unfold quotedChar
  split
  next quote =>
    subst quote
    simp [noBreak]
  next => simpa using noBreak

namespace GapBehind

variable {previous : Char} {gap : Gap}

private theorem add_space (behind : GapBehind previous gap) (inside : isBreak previous = false) :
    GapBehind ' ' (gap.add ' ') ∧ (gap.add ' ').text = gap.text ++ [' '] := by
  cases behind with
  | @spaces blanks _ space =>
      exact ⟨.spaces rfl fun _ => rfl, by simp [Gap.add, Gap.text, isBreak, Gap.reachesLine]⟩
  | breaks ends =>
      rw [ends] at inside
      cases inside

private theorem add_break (behind : GapBehind previous gap) (noSpace : previous ≠ ' ') {c : Char}
    (ends : isBreak c = true) (kept : c ≠ '\n') :
    GapBehind c (gap.add c) ∧ (gap.add c).text = gap.text ++ [c] := by
  cases behind with
  | @spaces blanks _ space =>
      have empty : blanks = [] := by
        by_contra filled
        exact noSpace (space filled)
      subst empty
      have folded : Gap.fold [c] = [c] := fold_eq_self (by simpa using kept.symm)
      have keptAll : '\n' ∉ [c] := by simpa using kept.symm
      refine ⟨?_, by simp [Gap.add, Gap.text, ends, folded]⟩
      simpa [Gap.add, ends] using GapBehind.breaks ends (List.cons_ne_nil c []) keptAll
  | @breaks breaks _ filled keptBefore =>
      have keptAll : '\n' ∉ c :: breaks := by
        simpa using ⟨kept.symm, keptBefore⟩
      have folded : Gap.fold (c :: breaks).reverse = (c :: breaks).reverse :=
        fold_eq_self (by simpa using ⟨keptBefore, kept.symm⟩)
      have foldedBefore : Gap.fold breaks.reverse = breaks.reverse :=
        fold_eq_self (by simpa using keptBefore)
      refine ⟨?_, ?_⟩
      · simpa [Gap.add, ends] using GapBehind.breaks ends (List.cons_ne_nil c breaks) keptAll
      · simp only [Gap.add, Gap.text, ends, if_true, folded, foldedBefore]
        simp [filled]

end GapBehind

/-- What is written in front of a character's line is passed over. -/
theorem readSingleQuoted_margin {previous : Char} {gap : Gap} (behind : GapBehind previous gap)
    {mark : Mark} (right : isBreak previous = false → 0 < mark.column) (content rest : List Char) :
    readSingleQuoted mark content gap false (margin (isBreak previous) ++ rest) =
        readSingleQuoted (mark.past (margin (isBreak previous))) content gap false rest ∧
      0 < (mark.past (margin (isBreak previous))).column := by
  cases fresh : isBreak previous with
  | false => exact ⟨rfl, right fresh⟩
  | true =>
      have reaches : gap.reachesLine = true := by rw [behind.reachesLine, fresh]
      refine ⟨readSingleQuoted_indent reaches mark content rest, ?_⟩
      have column : (mark.past lineIndent).column = mark.column + 2 :=
        Mark.column_past (List.forall_mem_cons.mpr ⟨rfl, List.forall_mem_singleton.mpr rfl⟩) mark
      change 0 < (mark.past lineIndent).column
      omega

/-- What is written of one character in single quotes. -/
def singlePart (fresh : Bool) (c : Char) : List Char :=
  if isBreak c then [c] else margin fresh ++ quotedChar c

private theorem singleLines_cons (fresh : Bool) (c : Char) (rest : List Char) :
    singleLines fresh (c :: rest) = singlePart fresh c ++ singleLines (isBreak c) rest := by
  unfold singlePart
  rw [singleLines]
  cases isBreak c <;> rfl

section Step

variable {previous c : Char} {gap : Gap} {mark : Mark}

private theorem column_past_singlePart (fresh : Bool) (inside : isBreak c = false) :
    0 < (mark.past (singlePart fresh c)).column := by
  have longer : 0 < (quotedChar c).length := by
    unfold quotedChar
    split <;> exact Nat.succ_pos _
  have part : singlePart fresh c = margin fresh ++ quotedChar c := by
    simp [singlePart, inside]
  rw [part, Mark.past_append, Mark.column_past (quotedChar_inside inside)]
  omega

/-- One character is read back: it stands in the gap or behind it. -/
theorem readSingleQuoted_part (printable : isPrintable c = true) (kept : c ≠ '\n')
    (before : previous = ' ' → endsLine c = false) (after : endsLine previous = true → c ≠ ' ')
    (behind : GapBehind previous gap) (right : isBreak previous = false → 0 < mark.column)
    (content rest : List Char) :
    ∃ later passed, GapBehind c later ∧
      passed.reverse ++ later.text = content.reverse ++ gap.text ++ [c] ∧
      readSingleQuoted mark content gap false (singlePart (isBreak previous) c ++ rest) =
        readSingleQuoted (mark.past (singlePart (isBreak previous) c)) passed later false rest := by
  unfold singlePart
  cases ends : isBreak c with
  | true =>
      have noSpace : previous ≠ ' ' := by
        intro space
        have inside := before space
        simp [endsLine, ends] at inside
      obtain ⟨behindThis, same⟩ := behind.add_break noSpace ends kept
      exact ⟨gap.add c, content, behindThis, by simp [same], by simp [readSingleQuoted, ends]⟩
  | false =>
      by_cases space : c = ' '
      · subst space
        have inside : isBreak previous = false := by
          by_contra broken
          rw [Bool.not_eq_false] at broken
          exact after (by simp [endsLine, broken]) rfl
        obtain ⟨behindThis, same⟩ := behind.add_space inside
        rw [inside]
        exact ⟨gap.add ' ', content, behindThis, by simp [same], rfl⟩
      · have noBlank : isBlank c = false := isBlank_eq_false_of_printable printable space
        have noGap : ([] : List Char) ≠ [] → c = ' ' := fun filled => (filled rfl).elim
        obtain ⟨passed, column⟩ := readSingleQuoted_margin behind right content
          (quotedChar c ++ rest)
        refine ⟨{}, c :: (gap.text.reverse ++ content), .spaces ends noGap, by simp [Gap.text], ?_⟩
        rw [if_neg Bool.false_ne_true, List.append_assoc, passed,
          readSingleQuoted_char noBlank ends column, Mark.past_append]

end Step

/-- From any of its characters on, a text in single quotes is read back. The character before it is
told, and the gap that this leaves. -/
theorem readSingleQuoted_lines {text ending : List Char} {previous : Char} {gap : Gap}
    (printable : ∀ c ∈ text, isPrintable c = true ∧ c ≠ '\n')
    (before : spaceBeside (· = ' ') endsLine (previous :: text) = false)
    (after : spaceBeside endsLine (· = ' ') (previous :: text) = false)
    (behind : GapBehind previous gap) (single : ending.head? ≠ some '\'') {mark : Mark}
    (right : isBreak previous = false → 0 < mark.column) (content : List Char) :
    readSingleQuoted mark content gap false (singleLines (isBreak previous) text ++ ending) =
      some (content.reverse ++ gap.text ++ text,
        ⟨ending, mark.past (singleLines (isBreak previous) text)⟩) := by
  induction text generalizing previous gap mark content with
  | nil =>
      obtain ⟨passed, column⟩ := readSingleQuoted_margin behind right content ('\'' :: ending)
      rw [singleLines, List.append_assoc, List.singleton_append, passed, Mark.past_append]
      have inside : (isBlank '\'' || isBreak '\'') = false := by decide
      simp [readSingleQuoted, inside, atDocumentMarker_eq_false column, single]
  | cons c rest ih =>
      obtain ⟨⟨isPrintable, kept⟩, others⟩ := List.forall_mem_cons.mp printable
      rw [spaceBeside_cons, Bool.or_eq_false_iff] at before after
      obtain ⟨apart, before⟩ := before
      obtain ⟨apartToo, after⟩ := after
      obtain ⟨later, passed, behindThis, same, one⟩ := readSingleQuoted_part isPrintable kept
        (by simpa using apart) (by simpa using apartToo) behind right content
        (singleLines (isBreak c) rest ++ ending)
      have column : isBreak c = false →
          0 < (mark.past (singlePart (isBreak previous) c)).column := column_past_singlePart _
      have next := ih others before after behindThis column passed
      rw [singleLines_cons, List.append_assoc, one, next, same, Mark.past_append]
      simp

/-- Read in single quotes, a text is what it was when it was written in them. -/
theorem readSingleQuoted_written {text : List Char}
    (allows : (TextShape.of text).allowsSingle = true)
    (single : '\n' ∉ text) {mark : Mark} (right : 0 < mark.column) {ending : List Char}
    (apart : ending.head? ≠ some '\'') :
    readSingleQuoted mark [] {} false (singleLines false text ++ ending) =
      some (text, ⟨ending, mark.past (singleLines false text)⟩) := by
  simp only [TextShape.allowsSingle, TextShape.isSimple, TextShape.of, Bool.and_eq_true,
    Bool.not_eq_true'] at allows
  obtain ⟨⟨printable, before⟩, after⟩ := allows
  have characters : ∀ c ∈ text, isPrintable c = true ∧ c ≠ '\n' := fun c inside =>
    ⟨List.all_eq_true.mp printable c inside, fun newline => single (newline ▸ inside)⟩
  -- The opening quote stands before the text and is neither a space nor a break.
  have beforeToo : spaceBeside (· = ' ') endsLine ('\'' :: text) = false := by
    cases text with
    | nil => rfl
    | cons c rest => rw [spaceBeside_cons, before]; rfl
  have afterToo : spaceBeside endsLine (· = ' ') ('\'' :: text) = false := by
    cases text with
    | nil => rfl
    | cons c rest => rw [spaceBeside_cons, after]; rfl
  have start : GapBehind '\'' {} := .spaces rfl fun filled => (filled rfl).elim
  exact readSingleQuoted_lines characters beforeToo afterToo start apart (fun _ => right) []

/-! ## Double quotes -/

private theorem hexValue?_upperHex {digit : Nat} (small : digit < 16) :
    hexValue? (upperHex digit) = some digit := by
  have all : ∀ digit < 16, hexValue? (upperHex digit) = some digit := by decide
  exact all digit small

/-- What a number has behind its leading hexadecimal digits. -/
theorem hexDigits_value (n count value : Nat) :
    (16 * value + n / 16 ^ count % 16) * 16 ^ count + n % 16 ^ count =
      value * 16 ^ (count + 1) + n % 16 ^ (count + 1) := by
  rw [Nat.mod_pow_succ, Nat.pow_succ]
  ring

/-- Hexadecimal digits are read as the number that they write, behind those that were read. -/
theorem readDoubleQuoted_digits {n count value number : Nat} {mark : Mark} {text : List Char}
    (same : value * 16 ^ (count + 1) + n % 16 ^ (count + 1) = number)
    (valid : number.isValidChar) (rest : List Char) :
    readDoubleQuoted mark text {} (.digits (count + 1) value) (hexDigits n (count + 1) ++ rest) =
      readDoubleQuoted (mark.past (hexDigits n (count + 1))) (Char.ofNat number :: text) {} .outside
        rest := by
  induction count generalizing value mark with
  | zero =>
      rw [← hexDigits_value, Nat.pow_zero, Nat.mod_one, Nat.mul_one, Nat.add_zero, Nat.div_one]
        at same
      have digit := hexValue?_upperHex (Nat.mod_lt n (by decide : 0 < 16))
      simp [hexDigits, readDoubleQuoted, digit, same, valid]
  | succ count ih =>
      rw [← hexDigits_value] at same
      have digit :=
        hexValue?_upperHex (Nat.mod_lt (n / Nat.pow 16 (count + 1)) (by decide : 0 < 16))
      rw [hexDigits, List.cons_append, readDoubleQuoted]
      simp only [digit, Option.bind_eq_bind, Option.bind_some]
      rw [if_pos (by omega)]
      exact ih same

/-- The letter that stands for a character is read as the character. -/
theorem escapedChar?_escapeLetter? {c letter : Char} (named : escapeLetter? c = some letter) :
    escapedChar? letter = some c ∧ isBreak letter = false ∧ isPrintable letter = true := by
  unfold escapeLetter? at named
  split at named <;> cases named <;> decide

private theorem escapeLetter?_of_break {c : Char} (ends : isBreak c = true) :
    escapeLetter? c ≠ none := by
  simp only [isBreak, Bool.or_eq_true, decide_eq_true_iff] at ends
  obtain (rfl | rfl) | rfl := ends <;> decide

/-- In double quotes an indicator is read with the gap before it. -/
theorem readDoubleQuoted_backslash {mark : Mark} (right : 0 < mark.column) (text : List Char)
    (gap : Gap) (rest : List Char) :
    readDoubleQuoted mark text gap .outside ('\\' :: rest) =
      readDoubleQuoted (mark.after '\\') (gap.text.reverse ++ text) {} .begun rest := by
  have ordinary : (isBlank '\\' || isBreak '\\') = false := by decide
  simp [readDoubleQuoted, ordinary, atDocumentMarker_eq_false right]

/-- A character that is written by its code is read. -/
theorem readDoubleQuoted_hex {c letter : Char} {count : Nat} (named : escapedChar? letter = none)
    (digits : escapeDigits? letter = some (count + 1)) (inside : isBreak letter = false)
    (small : c.toNat < 16 ^ (count + 1)) {mark : Mark} (right : 0 < mark.column)
    (text : List Char) (gap : Gap) (rest : List Char) :
    readDoubleQuoted mark text gap .outside
        ('\\' :: letter :: hexDigits c.toNat (count + 1) ++ rest) =
      readDoubleQuoted (mark.past ('\\' :: letter :: hexDigits c.toNat (count + 1)))
        (c :: (gap.text.reverse ++ text)) {} .outside rest := by
  have number : 0 * 16 ^ (count + 1) + c.toNat % 16 ^ (count + 1) = c.toNat := by
    rw [Nat.zero_mul, Nat.zero_add, Nat.mod_eq_of_lt small]
  rw [List.cons_append, readDoubleQuoted_backslash right, List.cons_append, readDoubleQuoted]
  simp only [inside, named, digits, Bool.false_eq_true, if_false]
  rw [readDoubleQuoted_digits number c.valid, Char.ofNat_toNat]
  rfl

/-- A character other than a space is read back in double quotes, with the gap before it. -/
theorem readDoubleQuoted_char {c : Char} (noSpace : c ≠ ' ') {mark : Mark} (right : 0 < mark.column)
    (text : List Char) (gap : Gap) (rest : List Char) :
    readDoubleQuoted mark text gap .outside (writeEscaped c ++ rest) =
      readDoubleQuoted (mark.past (writeEscaped c)) (c :: (gap.text.reverse ++ text)) {} .outside
        rest := by
  unfold writeEscaped
  split
  next letter named =>
    obtain ⟨same, inside, -⟩ := escapedChar?_escapeLetter? named
    rw [List.cons_append, readDoubleQuoted_backslash right, List.cons_append, readDoubleQuoted]
    simp [inside, same]
  next unnamed =>
    split
    next printable =>
      have noBreak : isBreak c = false := by
        rw [← Bool.not_eq_true]
        exact fun ends => escapeLetter?_of_break ends unnamed
      have noBlank : isBlank c = false := isBlank_eq_false_of_printable printable noSpace
      have noQuote : c ≠ '"' := by
        rintro rfl
        exact absurd unnamed (by decide)
      have noSlash : c ≠ '\\' := by
        rintro rfl
        exact absurd unnamed (by decide)
      simp [readDoubleQuoted, noBreak, noBlank, noQuote, noSlash, atDocumentMarker_eq_false right]
    next =>
      have limit : c.toNat < 16 ^ 8 := c.val.toNat_lt
      split
      next small =>
        exact readDoubleQuoted_hex rfl rfl rfl (Nat.lt_of_le_of_lt small (by decide)) right _ _ _
      split
      next small =>
        exact readDoubleQuoted_hex rfl rfl rfl (Nat.lt_of_le_of_lt small (by decide)) right _ _ _
      next => exact readDoubleQuoted_hex rfl rfl rfl limit right _ _ _

private theorem hexDigits_inside (n count : Nat) :
    ∀ c ∈ hexDigits n count, isPrintable c = true ∧ isBreak c = false := by
  have all : ∀ digit < 16,
      isPrintable (upperHex digit) = true ∧ isBreak (upperHex digit) = false := by decide
  induction count with
  | zero => nofun
  | succ count ih =>
      rw [hexDigits, List.forall_mem_cons]
      exact ⟨all _ (Nat.mod_lt _ (by decide)), ih⟩

/-- Nothing that is written in double quotes needs an escape or ends a line. -/
theorem writeEscaped_inside (c : Char) :
    ∀ written ∈ writeEscaped c, isPrintable written = true ∧ isBreak written = false := by
  unfold writeEscaped
  split
  next letter named =>
    obtain ⟨-, inside, printable⟩ := escapedChar?_escapeLetter? named
    simpa [List.forall_mem_cons] using ⟨by decide, printable, inside⟩
  next unnamed =>
    split
    next printable =>
      have noBreak : isBreak c = false := by
        rw [← Bool.not_eq_true]
        exact fun ends => escapeLetter?_of_break ends unnamed
      simpa using ⟨printable, noBreak⟩
    next =>
      have slash : isPrintable '\\' = true ∧ isBreak '\\' = false := by decide
      split
      · exact List.forall_mem_cons.mpr ⟨slash,
          List.forall_mem_cons.mpr ⟨by decide, hexDigits_inside _ _⟩⟩
      split
      · exact List.forall_mem_cons.mpr ⟨slash,
          List.forall_mem_cons.mpr ⟨by decide, hexDigits_inside _ _⟩⟩
      · exact List.forall_mem_cons.mpr ⟨slash,
          List.forall_mem_cons.mpr ⟨by decide, hexDigits_inside _ _⟩⟩

/-- Read in double quotes, a text is what it was when it was written in them. The spaces right
before it are given. -/
theorem readDoubleQuoted_text (text : List Char) {mark : Mark} (right : 0 < mark.column)
    (content blanks ending : List Char) :
    readDoubleQuoted mark content ⟨blanks, [], false⟩ .outside
        (text.flatMap writeEscaped ++ '"' :: ending) =
      some (content.reverse ++ blanks.reverse ++ text,
        ⟨ending, mark.past (text.flatMap writeEscaped ++ ['"'])⟩) := by
  induction text generalizing mark content blanks with
  | nil =>
      have ordinary : (isBlank '"' || isBreak '"') = false := by decide
      simp [readDoubleQuoted, ordinary, atDocumentMarker_eq_false right, Gap.text]
  | cons c rest ih =>
      rw [List.flatMap_cons, List.append_assoc, List.append_assoc]
      have column : 0 < (mark.past (writeEscaped c)).column := by
        rw [Mark.column_past fun written inside => (writeEscaped_inside c written inside).2]
        omega
      by_cases space : c = ' '
      · subst space
        have one : readDoubleQuoted mark content ⟨blanks, [], false⟩ .outside
            (writeEscaped ' ' ++ (rest.flatMap writeEscaped ++ '"' :: ending)) =
            readDoubleQuoted (mark.past (writeEscaped ' ')) content ⟨' ' :: blanks, [], false⟩
              .outside (rest.flatMap writeEscaped ++ '"' :: ending) := rfl
        rw [one, ih column]
        simp [Mark.past_append]
      · rw [readDoubleQuoted_char space right]
        refine (ih column _ []).trans ?_
        simp [Gap.text, Mark.past_append]

end FlowCheck.Yaml
