import FlowCheck.Proofs.Yaml.Place
import FlowCheck.Yaml.Token.Scalar
import Mathlib.Tactic.ByContra

/-! # Plain texts are read back

A plain scalar ends at an indicator between words or at the line's end. A text is written plain only
if no indicator stands in it where one would be read, so the reader passes over all of it, and
the spaces between its words are kept.
-/

namespace FlowCheck.Yaml

/-- A text of one line that has no indicator for a reader of plain scalars. -/
structure IsPlain (text : List Char) : Prop where
  inline : ∀ c ∈ text, isPrintable c = true ∧ endsLine c = false
  quiet : ∃ first rest, text = first :: rest ∧ first ≠ ' ' ∧
    opensIndicator first rest.head? = false ∧ holdsIndicator first rest = false
  ends : text.getLast? ≠ some ' '

section Passing

variable {c : Char} {rest : List Char}

/-- What does not end a line is no line break. -/
theorem isBreak_of_endsLine (inline : endsLine c = false) : isBreak c = false := by
  simp_all [endsLine]

/-- Documents are marked at the beginning of a line only. -/
theorem atDocumentMarker_eq_false {column : Nat} (right : 0 < column) (text : List Char) :
    Cursor.atDocumentMarker column text = false := by
  unfold Cursor.atDocumentMarker
  split
  · simp [Nat.ne_of_gt right]
  · rfl

/-- A colon that separates nothing in a text does not end a scalar either, whatever follows it. -/
theorem endsPlain_eq_false {tail : List Char} (quiet : ¬ (c = ':' ∧ separates tail.head? = true))
    (ending : List Char) : endsPlain false c (tail ++ ending).head? = false := by
  by_cases colon : c = ':'
  · cases tail with
    | nil => exact absurd ⟨colon, rfl⟩ quiet
    | cons next tail =>
        have joined : separates (some next) ≠ true := fun gap => quiet ⟨colon, gap⟩
        simp_all [endsPlain, separates, isGap, endsLine]
  · simp [endsPlain, colon]

/-- A reader of a plain scalar takes a character that is no indicator where it stands, with the
spaces right before it. -/
theorem readPlain_char {indent : Nat} {mark : Mark} {blanks : List Char} {previous : Char}
    {tail : List Char} (printable : isPrintable c = true) (inline : endsLine c = false)
    (noSpace : c ≠ ' ') (noColon : ¬ (c = ':' ∧ separates tail.head? = true))
    (noSign : ¬ (c = '#' ∧ separates (some previous) = true))
    (spaces : blanks ≠ [] → previous = ' ')
    (deep : blanks ≠ [] → 0 < mark.column ∧ indent ≤ mark.column) (text ending : List Char) :
    readPlain false indent mark text ⟨blanks, [], false⟩ (c :: (tail ++ ending)) =
      readPlain false indent (mark.after c) (c :: (blanks ++ text)) {} (tail ++ ending) := by
  have noBlank : isBlank c = false := isBlank_eq_false_of_printable printable noSpace
  have noBreak : isBreak c = false := isBreak_of_endsLine inline
  have colon : endsPlain false c (tail ++ ending).head? = false := endsPlain_eq_false noColon ending
  have goesOn : ¬ (blanks ≠ [] ∧
      endsPlainWord false indent mark.column (c :: (tail ++ ending)) = true) := by
    rintro ⟨filled, stops⟩
    obtain rfl := spaces filled
    obtain ⟨right, enough⟩ := deep filled
    have word : c ≠ '#' := fun sign => noSign ⟨sign, rfl⟩
    simp [endsPlainWord, atDocumentMarker_eq_false right, word, Nat.not_lt.mpr enough] at stops
  rw [readPlain]
  simp [Gap.reachesLine, Gap.text, noBlank, noBreak, isStrayColon, colon, goesOn,
    -List.head?_append]

/-- A reader of a plain scalar passes over a text without indicators. The spaces right before it are
given, as is the character before it. -/
theorem readPlain_append {indent : Nat} {mark : Mark} {text blanks : List Char} {previous : Char}
    {tail : List Char} (ending : List Char)
    (inline : ∀ c ∈ tail, isPrintable c = true ∧ endsLine c = false)
    (quiet : holdsIndicator previous tail = false) (spaces : blanks ≠ [] → previous = ' ')
    (ends : (previous :: tail).getLast? ≠ some ' ')
    (deep : ' ' ∈ previous :: tail → 0 < mark.column ∧ indent ≤ mark.column) :
    readPlain false indent mark text ⟨blanks, [], false⟩ (tail ++ ending) =
      readPlain false indent (mark.past tail) (tail.reverse ++ (blanks ++ text)) {} ending := by
  induction tail generalizing mark text blanks previous with
  | nil =>
      have empty : blanks = [] := by
        by_contra filled
        exact ends (by rw [spaces filled]; rfl)
      rw [empty]
      rfl
  | cons c tail ih =>
      obtain ⟨⟨printable, inLine⟩, others⟩ := List.forall_mem_cons.mp inline
      simp only [holdsIndicator, Bool.or_eq_false_iff] at quiet
      obtain ⟨⟨noColon, noSign⟩, quiet⟩ := quiet
      have column : (mark.after c).column = mark.column + 1 :=
        Mark.column_after (isBreak_of_endsLine inLine) mark
      have lastTail : (c :: tail).getLast? ≠ some ' ' := by
        rwa [List.getLast?_cons_cons] at ends
      have deepTail : ' ' ∈ c :: tail → 0 < (mark.after c).column ∧
          indent ≤ (mark.after c).column := by
        intro inside
        have here := deep (List.mem_cons_of_mem _ inside)
        omega
      by_cases space : c = ' '
      · subst space
        have one : readPlain false indent mark text ⟨blanks, [], false⟩ (' ' :: tail ++ ending) =
            readPlain false indent (mark.after ' ') text ⟨' ' :: blanks, [], false⟩
              (tail ++ ending) := rfl
        rw [one, ih others quiet (fun _ => rfl) lastTail deepTail]
        simp
      · have deepHere : blanks ≠ [] → 0 < mark.column ∧ indent ≤ mark.column :=
          fun filled => deep (by rw [spaces filled]; exact List.mem_cons_self)
        have noGap : ([] : List Char) ≠ [] → c = ' ' := fun filled => (filled rfl).elim
        rw [List.cons_append, readPlain_char printable inLine space (by simpa using noColon)
          (by simpa using noSign) spaces deepHere, ih others quiet noGap lastTail deepTail]
        simp

/-- A reader passes over all of a text without indicators. -/
theorem readPlain_of_isPlain {text : List Char} (plain : IsPlain text) {indent : Nat} {mark : Mark}
    (deep : ' ' ∈ text → 0 < mark.column ∧ indent ≤ mark.column) (ending : List Char) :
    readPlain false indent mark [] {} (text ++ ending) =
      readPlain false indent (mark.past text) text.reverse {} ending := by
  obtain ⟨first, rest, rfl, -, opens, quiet⟩ := plain.quiet
  have noColon : (first = ':' && separates rest.head?) = false := by
    rw [Bool.and_eq_false_imp, decide_eq_true_iff]
    rintro rfl
    exact opens
  have noSign : (first = '#' && separates (some first)) = false := by
    rw [Bool.and_eq_false_imp, decide_eq_true_iff]
    rintro rfl
    rfl
  have quietHere : holdsIndicator first (first :: rest) = false := by
    rw [holdsIndicator, noColon, noSign, quiet]
    rfl
  have ends : (first :: first :: rest).getLast? ≠ some ' ' := by
    rw [List.getLast?_cons_cons]
    exact plain.ends
  have deepHere : ' ' ∈ first :: first :: rest → 0 < mark.column ∧ indent ≤ mark.column := by
    intro inside
    exact deep (by simpa using inside)
  have noGap : ([] : List Char) ≠ [] → first = ' ' := fun filled => (filled rfl).elim
  refine (readPlain_append ending plain.inline quietHere noGap ends deepHere).trans ?_
  simp

end Passing

/-- Read as a plain scalar, a text without indicators is itself up to the end of its line. -/
theorem readPlain_line {text : List Char} (plain : IsPlain text) {indent : Nat} {mark : Mark}
    (nested : 0 < indent) (deep : indent ≤ mark.column) {rest : List Char}
    (starts : StartsLine rest) :
    readPlain false indent mark [] {} (text ++ '\n' :: rest) =
      some ⟨text, ⟨rest, mark.past (text ++ ['\n'])⟩, true⟩ := by
  rw [readPlain_of_isPlain plain fun _ => ⟨Nat.lt_of_lt_of_le nested deep, deep⟩]
  have behind : (mark.past text).after '\n' = mark.past (text ++ ['\n']) := by
    rw [Mark.past_append]
    rfl
  have newline : readPlain false indent (mark.past text) text.reverse {} ('\n' :: rest) =
      readPlain false indent ((mark.past text).after '\n') text.reverse ⟨[], ['\n'], false⟩ rest :=
    rfl
  rw [newline, behind]
  cases rest with
  | nil => simp [readPlain, Gap.reachesLine]
  | cons c rest =>
      obtain ⟨noBlank, noBreak, -⟩ := starts c rfl
      have column := (mark.past_newline text).1
      simp [readPlain, noBlank, noBreak, Gap.reachesLine, endsPlainWord, column, nested]

/-- Read as a plain scalar, a word without indicators ends at the colon that makes it a key. -/
theorem readPlain_key {name : List Char} (plain : IsPlain name) (word : ' ' ∉ name) (indent : Nat)
    (mark : Mark) {rest : List Char} (gap : isGap rest.head? = true) :
    readPlain false indent mark [] {} (name ++ ':' :: rest) =
      some ⟨name, ⟨':' :: rest, mark.past name⟩, false⟩ := by
  rw [readPlain_of_isPlain plain fun inside => (word inside).elim]
  simp [readPlain, isBlank, isBreak, Gap.reachesLine, isStrayColon, endsPlain, gap]

/-- A text is written plain only if it has no indicators for a reader. -/
theorem isPlain_of_allowsPlain {text : List Char} (filled : text ≠ [])
    (allows : (TextShape.of text).allowsPlain = true) : IsPlain text := by
  obtain ⟨first, rest, rfl⟩ := List.exists_cons_of_ne_nil filled
  simp only [TextShape.allowsPlain, TextShape.isSimple, TextShape.of, Bool.and_eq_true,
    Bool.not_eq_true', Bool.or_eq_false_iff] at allows
  obtain ⟨⟨⟨⟨printable, -⟩, begins, ends⟩, inline⟩, -, opens, quiet⟩ := allows
  refine ⟨fun c inside => ⟨List.all_eq_true.mp printable c inside, ?_⟩,
    ⟨first, rest, rfl, ?_, opens, quiet⟩, ?_⟩
  · rw [List.any_eq_false] at inline
    simpa using inline c inside
  · rintro rfl
    cases begins
  · intro last
    rw [last] at ends
    cases ends

/-! ## Words -/

/-- A character of a word: a letter, a digit or an underscore. -/
def IsWordChar (c : Char) : Prop :=
  isNameChar c = true ∧ c ≠ '-'

instance (c : Char) : Decidable (IsWordChar c) :=
  inferInstanceAs (Decidable (_ ∧ _))

section Words

variable {c : Char}

/-- The characters of words differ from all others. -/
theorem IsWordChar.ne (word : IsWordChar c) {other : Char} (apart : ¬ IsWordChar other) :
    c ≠ other := by
  rintro rfl
  exact apart word

/-- The characters of words are printable. -/
theorem IsWordChar.isPrintable (word : IsWordChar c) : isPrintable c = true := by
  have name := word.1
  have order : ∀ other : Char,
      (other ≤ c ↔ other.toNat ≤ c.toNat) ∧ (c ≤ other ↔ c.toNat ≤ other.toNat) :=
    fun other => ⟨Iff.rfl, Iff.rfl⟩
  simp only [isNameChar, Bool.or_eq_true, Bool.and_eq_true, decide_eq_true_iff, (order _).1,
    (order _).2] at name
  have range : 0x20 ≤ c.toNat ∧ c.toNat ≤ 0x7e := by
    obtain (((digit | upper) | lower) | rfl) | rfl := name
    · exact ⟨Nat.le_trans (by decide) digit.1, Nat.le_trans digit.2 (by decide)⟩
    · exact ⟨Nat.le_trans (by decide) upper.1, Nat.le_trans upper.2 (by decide)⟩
    · exact ⟨Nat.le_trans (by decide) lower.1, Nat.le_trans lower.2 (by decide)⟩
    · decide
    · decide
  simp [Yaml.isPrintable, range]

/-- The characters of words end no line. -/
theorem IsWordChar.endsLine (word : IsWordChar c) : endsLine c = false := by
  have apart : c ≠ '\n' ∧ c ≠ '\u2028' ∧ c ≠ '\u2029' ∧ c ≠ '\r' ∧ c ≠ '\u0085' :=
    ⟨word.ne (by decide), word.ne (by decide), word.ne (by decide), word.ne (by decide),
      word.ne (by decide)⟩
  simp [Yaml.endsLine, isBreak, apart]

/-- The characters of words indicate nothing. -/
theorem IsWordChar.isIndicator (word : IsWordChar c) : isIndicator c = false := by
  by_contra indicates
  have listed : c ∈ ",[]\x7b\x7d-?:#&*!|>'\"%@\x60".toList := by
    rw [Bool.not_eq_false] at indicates
    simp only [Yaml.isIndicator, isFlowIndicator, Bool.or_eq_true, decide_eq_true_iff] at indicates
    simpa [or_assoc] using indicates
  have none : (",[]\x7b\x7d-?:#&*!|>'\"%@\x60".toList.all fun c =>
      !decide (IsWordChar c)) = true := by decide +kernel
  simpa [word] using List.all_eq_true.mp none c listed

end Words

private theorem holdsIndicator_of_word {text : List Char} (word : ∀ c ∈ text, IsWordChar c)
    (previous : Char) : holdsIndicator previous text = false := by
  induction text generalizing previous with
  | nil => rfl
  | cons c rest ih =>
      rw [List.forall_mem_cons] at word
      have noColon : c ≠ ':' := word.1.ne (by decide)
      have noSign : c ≠ '#' := word.1.ne (by decide)
      simp [holdsIndicator, noColon, noSign, ih word.2]

/-- A word can be written as a plain scalar. -/
theorem isPlain_of_word {text : List Char} (filled : text ≠ []) (word : ∀ c ∈ text, IsWordChar c) :
    IsPlain text := by
  obtain ⟨first, rest, rfl⟩ := List.exists_cons_of_ne_nil filled
  obtain ⟨isFirst, others⟩ := List.forall_mem_cons.mp word
  have noSpace : ∀ {c : Char}, IsWordChar c → c ≠ ' ' := fun word => word.ne (by decide)
  refine ⟨fun c inside => ⟨(word c inside).isPrintable, (word c inside).endsLine⟩,
    ⟨first, rest, rfl, noSpace isFirst, ?_, holdsIndicator_of_word others first⟩, fun last => ?_⟩
  · have noDash : first ≠ '-' := isFirst.2
    have noMark : first ≠ '?' := isFirst.ne (by decide)
    have noColon : first ≠ ':' := isFirst.ne (by decide)
    simp [opensIndicator, noDash, noMark, noColon, isFirst.isIndicator]
  · exact noSpace (word ' ' (List.mem_of_getLast? last)) rfl

end FlowCheck.Yaml
