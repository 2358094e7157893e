import FlowCheck.Json.Printer
import FlowCheck.Json.Reader
import Mathlib.Data.List.Forall2
import Mathlib.Tactic.SplitIfs

/-! # How trees are spelled

Characters spell a tree if they take the reader from any place where a value may begin to the end of
that tree. What is open around the value does not matter, so a container is spelled by spellings of
what it holds, with blanks between them as one likes. In this way the written form of a value spells
a tree, and the tree is checked to be that value: what is written is read back.
-/

namespace FlowCheck.Json

/-! ## Runs of the reader -/

namespace Reader

/-- A text is read character by character. -/
theorem run_cons (reader : Reader) (c : Char) (rest : List Char) :
    reader.run (c :: rest) = (reader.step c).bind fun next => next.run rest := by
  rw [run]
  cases reader.step c <;> rfl

private theorem run_cons_of_step {reader next : Reader} {c : Char}
    (step : reader.step c = some next) (rest : List Char) :
    reader.run (c :: rest) = next.run rest := by
  rw [run_cons, step, Option.bind_some]

private theorem run_append (reader : Reader) (first rest : List Char) :
    reader.run (first ++ rest) = (reader.run first).bind fun next => next.run rest := by
  induction first generalizing reader with
  | nil => rfl
  | cons c first ih =>
      rw [List.cons_append, run_cons, run_cons, Option.bind_assoc]
      exact congrArg _ (funext fun next => ih next)

private theorem run_append_of_run {reader next : Reader} {first : List Char}
    (runs : reader.run first = some next) (rest : List Char) :
    reader.run (first ++ rest) = next.run rest := by
  rw [run_append, runs, Option.bind_some]

/-- Where blanks are skipped one by one, they are skipped together. -/
theorem run_blanks {reader : Reader} {blanks : List Char}
    (skips : ∀ c, isBlank c = true → reader.step c = some reader)
    (blank : ∀ c ∈ blanks, isBlank c = true) : reader.run blanks = some reader := by
  induction blanks with
  | nil => rfl
  | cons c blanks ih =>
      rw [List.forall_mem_cons] at blank
      rw [run_cons_of_step (skips c blank.1), ih blank.2]

end Reader

/-! ## Values that end -/

/-- What may follow a value at once: a blank, a comma or the end of a container. -/
def isDelimiter (c : Char) : Bool :=
  isBlank c || c = ',' || c = ']' || c = '}'

/-- No number goes on with a delimiter. -/
theorem NumeralDraft.step_of_delimiter {draft : NumeralDraft} {numeral : Numeral} {c : Char}
    (complete : draft.finish? = some numeral) (delimits : isDelimiter c = true) :
    draft.step c = .complete := by
  have ends : c.isDigit = false ∧ c ≠ '.' ∧ ¬ (c = 'e' ∨ c = 'E') := by
    simp only [isDelimiter, isBlank, Bool.or_eq_true, decide_eq_true_eq] at delimits
    rcases delimits with (((((rfl | rfl) | rfl) | rfl) | rfl) | rfl) | rfl <;> decide
  obtain ⟨noDigit, noPoint, noMark⟩ := ends
  unfold finish? at complete
  cases phase : draft.phase with
  | zero | whole | fraction | exponent => simp [step, suffix, phase, noDigit, noPoint, noMark]
  | sign | point | exponentMark | exponentSign =>
      rw [phase] at complete
      cases complete

namespace Reader

variable {stack : List Frame} {tree : Tree} {reader : Reader}

/-- The reader has come to the end of a value, or is in a number that may end here. -/
inductive Holds (stack : List Frame) : Tree → Reader → Prop where
  | whole {tree : Tree} : Holds stack tree ⟨stack, .after tree⟩
  | number {draft : NumeralDraft} {numeral : Numeral} (complete : draft.finish? = some numeral) :
      Holds stack (.number numeral) ⟨stack, .number draft⟩

private theorem Holds.step (holds : Holds stack tree reader) {c : Char}
    (delimits : isDelimiter c = true) : reader.step c = stepAfter stack tree c := by
  cases holds with
  | whole => rfl
  | number complete =>
      rw [Reader.step]
      simp only [NumeralDraft.step_of_delimiter complete delimits, complete, Option.bind_some]

private theorem Holds.run_blanks (holds : Holds stack tree reader) {blanks : List Char}
    (blank : ∀ c ∈ blanks, isBlank c = true) :
    ∃ next, reader.run blanks = some next ∧ Holds stack tree next := by
  cases blanks with
  | nil => exact ⟨reader, rfl, holds⟩
  | cons c blanks =>
      rw [List.forall_mem_cons] at blank
      have skips : ∀ c, isBlank c = true → stepAfter stack tree c = some ⟨stack, .after tree⟩ :=
        fun c isBlank => if_pos isBlank
      refine ⟨⟨stack, .after tree⟩, ?_, .whole⟩
      rw [run_cons_of_step ((holds.step (by simp [isDelimiter, blank.1])).trans (skips c blank.1))]
      exact Reader.run_blanks skips blank.2

private theorem Holds.finish? (holds : Holds [] tree reader) : reader.finish? = some tree := by
  cases holds with
  | whole => rfl
  | number complete =>
      rw [Reader.finish?]
      simp only [complete, Option.map_some]

end Reader

/-! ## Spellings -/

/-- Whether a value may begin in a mode. -/
def Mode.BeginsValue (mode : Mode) : Prop :=
  mode = .value ∨ mode = .firstItem

/-- Characters spell a tree: from wherever a value may begin, the reader comes to the end of it. -/
def Spells (chars : List Char) (tree : Tree) : Prop :=
  ∀ stack mode, mode.BeginsValue → ∃ reader,
    Reader.run ⟨stack, mode⟩ chars = some reader ∧ reader.Holds stack tree

/-- What spells a tree is its text, with blanks behind it or without. -/
theorem Spells.ofChars?_append {chars blanks : List Char} {tree : Tree}
    (spells : Spells chars tree) (blank : ∀ c ∈ blanks, isBlank c = true) :
    Tree.ofChars? (chars ++ blanks) = some tree := by
  obtain ⟨reader, runs, holds⟩ := spells [] .value (.inl rfl)
  obtain ⟨ended, skipped, held⟩ := holds.run_blanks blank
  rw [Tree.ofChars?, Reader.start, Reader.run_append_of_run runs, skipped, Option.bind_some,
    held.finish?]

/-- A spelling of a value on its own is read as the value. -/
theorem Spells.ofChars? {chars : List Char} {tree : Tree} (spells : Spells chars tree) :
    Tree.ofChars? chars = some tree := by
  have whole := spells.ofChars?_append (List.forall_mem_nil _)
  rwa [List.append_nil] at whole

private theorem step_of_beginsValue {mode : Mode} (begins : mode.BeginsValue) {c : Char}
    (marked : isBlank c = false) (notEnd : c ≠ ']') (stack : List Frame) :
    Reader.step ⟨stack, mode⟩ c = beginValue stack c := by
  rcases begins with rfl | rfl <;> simp [Reader.step, marked, notEnd]

/-- The word for null spells it. -/
theorem spells_null : Spells "null".toList .null := by
  rintro stack mode (rfl | rfl) <;> exact ⟨_, rfl, .whole⟩

/-- The two words for truth values spell them. -/
theorem spells_bool (value : Bool) :
    Spells (if value then "true".toList else "false".toList) (.bool value) := by
  cases value with
  | false => rintro stack mode (rfl | rfl) <;> exact ⟨_, rfl, .whole⟩
  | true => rintro stack mode (rfl | rfl) <;> exact ⟨_, rfl, .whole⟩

/-! ## Strings -/

private theorem hexDigit?_hexDigit {digit : Nat} (small : digit < 16) :
    hexDigit? (hexDigit digit) = some digit := by
  revert digit
  decide

/-- A unit of a string stands for a character, whatever is before and after it. -/
def TextUnit.StandsFor (unit : TextUnit) (c : Char) : Prop :=
  ∀ decoded rest, decodeUnits decoded (unit :: rest) = decodeUnits (c :: decoded) rest

private theorem TextUnit.character_standsFor (c : Char) : (character c).StandsFor c :=
  fun _ _ => rfl

private theorem TextUnit.code_standsFor {c : Char} (control : c.toNat < 0x20) :
    (code c.toNat).StandsFor c := by
  intro decoded rest
  conv_lhs => unfold decodeUnits
  rw [if_pos (.inl (by omega)), Char.ofNat_toNat]

section Strings

variable (stack : List Frame) (role : TextRole) (units : List TextUnit)

private theorem run_short_escape {letter plain : Char} (known : escaped? letter = some plain) :
    Reader.run ⟨stack, .text role units .none⟩ ['\\', letter] =
      some ⟨stack, .text role (.character plain :: units) .none⟩ := by
  have noCode : letter ≠ 'u' := by
    rintro rfl
    cases known
  have started : Reader.step ⟨stack, .text role units .started⟩ letter =
      some ⟨stack, .text role (.character plain :: units) .none⟩ := by
    simp [Reader.step, stepText, noCode, known]
  rw [Reader.run_cons_of_step rfl, Reader.run_cons_of_step started, Reader.run]

private theorem run_code_escape {high low : Nat} (smallHigh : high < 16) (smallLow : low < 16) :
    Reader.run ⟨stack, .text role units .none⟩
        ['\\', 'u', '0', '0', hexDigit high, hexDigit low] =
      some ⟨stack, .text role (.code (16 * high + low) :: units) .none⟩ := by
  have third : Reader.step ⟨stack, .text role units (.hex 2 0)⟩ (hexDigit high) =
      some ⟨stack, .text role units (.hex 3 high)⟩ := by
    simp [Reader.step, stepText, hexDigit?_hexDigit smallHigh]
  have fourth : Reader.step ⟨stack, .text role units (.hex 3 high)⟩ (hexDigit low) =
      some ⟨stack, .text role (.code (16 * high + low) :: units) .none⟩ := by
    simp [Reader.step, stepText, hexDigit?_hexDigit smallLow]
  rw [Reader.run_cons_of_step rfl, Reader.run_cons_of_step rfl, Reader.run_cons_of_step rfl,
    Reader.run_cons_of_step rfl]
  exact (Reader.run_cons_of_step third _).trans (Reader.run_cons_of_step fourth [])

end Strings

/-- The written form of a character is read as one unit that stands for it. -/
theorem exists_unit_of_escape (c : Char) :
    ∃ unit : TextUnit, unit.StandsFor c ∧ ∀ stack role units,
      Reader.run ⟨stack, .text role units .none⟩ (escape c) =
        some ⟨stack, .text role (unit :: units) .none⟩ := by
  have short : ∀ {letter plain}, escaped? letter = some plain →
      ∃ unit : TextUnit, unit.StandsFor plain ∧ ∀ stack role units,
        Reader.run ⟨stack, .text role units .none⟩ ['\\', letter] =
          some ⟨stack, .text role (unit :: units) .none⟩ := fun known =>
    ⟨_, TextUnit.character_standsFor _, fun stack role units =>
      run_short_escape stack role units known⟩
  unfold escape
  split_ifs
  iterate 7
    case pos same =>
      subst same
      exact short rfl
  case pos control =>
    refine ⟨_, TextUnit.code_standsFor control, fun stack role units => ?_⟩
    rw [run_code_escape stack role units (by omega) (by omega), Nat.div_add_mod]
  case neg noQuote noBackslash _ _ _ _ _ noControl =>
    refine ⟨_, TextUnit.character_standsFor c, fun stack role units => ?_⟩
    have plain : ¬ c.val < 0x20 := by
      rwa [UInt32.lt_iff_toNat_lt]
    simp [Reader.run, Reader.step, stepText, noQuote, noBackslash, plain]

/-- A string is read to its closing quote, and its units are the text. -/
theorem exists_units (chars : List Char) :
    ∃ units, textOfUnits? units = some (String.ofList chars) ∧ ∀ stack role,
      Reader.run ⟨stack, .text role [] .none⟩ (chars.flatMap escape ++ ['"']) =
        some (endText stack role units.reverse) := by
  -- Units are gathered behind those already read, and so are the characters they stand for.
  have gathered : ∃ units,
      (∀ decoded, decodeUnits decoded units = some (decoded.reverse ++ chars)) ∧
      ∀ stack role before, Reader.run ⟨stack, .text role before .none⟩ (chars.flatMap escape) =
        some ⟨stack, .text role (units.reverse ++ before) .none⟩ := by
    induction chars with
    | nil => exact ⟨[], fun decoded => by simp [decodeUnits], fun _ _ _ => rfl⟩
    | cons c chars ih =>
        obtain ⟨unit, standsFor, first⟩ := exists_unit_of_escape c
        obtain ⟨units, decodes, runs⟩ := ih
        refine ⟨unit :: units, fun decoded => ?_, fun stack role before => ?_⟩
        · rw [standsFor, decodes, List.reverse_cons, List.append_assoc, List.singleton_append]
        · rw [List.flatMap_cons, Reader.run_append_of_run (first ..), runs, List.reverse_cons,
            List.append_assoc, List.singleton_append]
  obtain ⟨units, decodes, runs⟩ := gathered
  refine ⟨units, ?_, fun stack role => ?_⟩
  · rw [textOfUnits?, decodes, Option.map_some, List.reverse_nil, List.nil_append]
  · rw [Reader.run_append_of_run (runs ..), List.append_nil]
    rfl

/-- A text between quotes spells units that stand for the text. -/
theorem exists_spelling_of_text (content : String) :
    ∃ units, Spells (quote content.toList) (.text units) ∧ textOfUnits? units = some content := by
  obtain ⟨units, known, runs⟩ := exists_units content.toList
  refine ⟨units, fun stack mode begins => ⟨_, ?_, .whole⟩, ?_⟩
  · have opened := step_of_beginsValue begins (c := '"') rfl (by decide) stack
    rw [quote, Reader.run_cons_of_step opened, runs, endText, List.reverse_reverse]
  · rw [known, String.ofList_toList]

/-! ## Integers -/

private theorem ne_of_isDigit {c other : Char} (isDigit : c.isDigit = true)
    (noDigit : other.isDigit = false) : c ≠ other := by
  rintro rfl
  cases isDigit.symm.trans noDigit

private theorem isBlank_of_isDigit {c : Char} (isDigit : c.isDigit = true) : isBlank c = false := by
  have ne : ∀ {other : Char}, other.isDigit = false → ¬ c = other := ne_of_isDigit isDigit
  rw [isBlank, decide_eq_false (ne rfl), decide_eq_false (ne rfl), decide_eq_false (ne rfl),
    decide_eq_false (ne rfl)]
  rfl

/-- The digits of a number. Only zero begins with the digit zero, and it has no other. -/
theorem toDigits_eq_cons (n : Nat) :
    ∃ c rest, Nat.toDigits 10 n = c :: rest ∧ c.isDigit = true ∧
      (∀ digit ∈ rest, digit.isDigit = true) ∧ (c = '0' → n = 0 ∧ rest = []) := by
  have digits : ∀ c ∈ Nat.toDigits 10 n, c.isDigit = true :=
    fun c inside => Nat.isDigit_of_mem_toDigits (by decide) (by decide) inside
  induction n using Nat.strongRecOn with
  | ind n ih =>
      by_cases small : n < 10
      · rw [Nat.toDigits_of_lt_base small] at digits ⊢
        refine ⟨n.digitChar, [], rfl, digits _ List.mem_cons_self, nofun, fun zero => ⟨?_, rfl⟩⟩
        have value := Nat.toNat_digitChar_of_lt_ten small
        rw [zero] at value
        change 48 = 48 + n at value
        omega
      · rw [Nat.toDigits_of_base_le (by decide) (by omega)] at digits ⊢
        rw [List.forall_mem_append] at digits
        obtain ⟨c, rest, same, isDigit, others, zero⟩ := ih (n / 10) (by omega) digits.1
        rw [same, List.cons_append]
        refine ⟨c, _, rfl, isDigit, ?_, fun first => ?_⟩
        · exact List.forall_mem_append.mpr ⟨others, digits.2⟩
        · have := (zero first).1
          omega

/-- The whole part of a number goes on as long as there are digits. -/
theorem run_digits (stack : List Frame) (negative : Bool) {digits : List Char} (whole : List Char)
    (each : ∀ c ∈ digits, c.isDigit = true) :
    Reader.run ⟨stack, .number ⟨negative, whole, [], false, [], .whole⟩⟩ digits =
      some ⟨stack, .number ⟨negative, digits.reverse ++ whole, [], false, [], .whole⟩⟩ := by
  induction digits generalizing whole with
  | nil => rfl
  | cons c digits ih =>
      rw [List.forall_mem_cons] at each
      have step : Reader.step ⟨stack, .number ⟨negative, whole, [], false, [], .whole⟩⟩ c =
          some ⟨stack, .number ⟨negative, c :: whole, [], false, [], .whole⟩⟩ := by
        simp [Reader.step, NumeralDraft.step, each.1]
      rw [Reader.run_cons_of_step step, ih _ each.2, List.reverse_cons, List.append_assoc,
        List.singleton_append]

/-- After its sign, or without one, a number is read to the end of its digits. -/
theorem exists_draft (n : Nat) (negative : Bool) :
    ∃ c rest begun complete, Nat.toDigits 10 n = c :: rest ∧ c.isDigit = true ∧
      (∀ whole, NumeralDraft.step ⟨negative, whole, [], false, [], .sign⟩ c = .more begun) ∧
      (negative = false → NumeralDraft.start? c = some begun) ∧
      (∀ stack, Reader.run ⟨stack, .number begun⟩ rest = some ⟨stack, .number complete⟩) ∧
      complete.finish? = some ⟨negative, Nat.toDigits 10 n, [], none⟩ := by
  obtain ⟨c, rest, same, isDigit, others, zero⟩ := toDigits_eq_cons n
  have noSign : c ≠ '-' := ne_of_isDigit isDigit rfl
  by_cases isZero : c = '0'
  · obtain ⟨-, rfl⟩ := zero isZero
    refine ⟨c, [], ⟨negative, [c], [], false, [], .zero⟩, _, same, isDigit, ?_, ?_,
      fun _ => rfl, ?_⟩
    · simp [NumeralDraft.step, isZero]
    · rintro rfl
      simp [NumeralDraft.start?, isZero]
    · rw [same]
      rfl
  · refine ⟨c, rest, ⟨negative, [c], [], false, [], .whole⟩, _, same, isDigit, ?_, ?_,
      fun stack => run_digits stack negative [c] others, ?_⟩
    · simp [NumeralDraft.step, isZero, isDigit]
    · rintro rfl
      simp [NumeralDraft.start?, isZero, isDigit, noSign]
    · simp [NumeralDraft.finish?, same]

private theorem beginValue_of_isDigit {c : Char} (isDigit : c.isDigit = true) (stack : List Frame) :
    beginValue stack c = (NumeralDraft.start? c).map fun draft => ⟨stack, .number draft⟩ := by
  have ne : ∀ {other : Char}, other.isDigit = false → c ≠ other := ne_of_isDigit isDigit
  rw [beginValue, if_neg (ne rfl), if_neg (ne rfl), if_neg (ne rfl), if_neg (ne rfl),
    if_neg (ne rfl), if_neg (ne rfl)]

/-- The decimal digits of a number have its value. -/
theorem digitsValue_toDigits (n : Nat) : digitsValue (Nat.toDigits 10 n) = n :=
  Nat.ofDigitChars_toDigits (by decide) (by decide)

/-- Integers are written with a sign if they are negative, and with all their digits. -/
theorem spells_integer (n : Int) :
    Spells (Number.integer n).chars
      (.number ⟨decide (n < 0), Nat.toDigits 10 n.natAbs, [], none⟩) := by
  intro stack mode begins
  obtain ⟨c, rest, begun, complete, same, isDigit, signed, unsigned, runs, finished⟩ :=
    exists_draft n.natAbs (decide (n < 0))
  refine ⟨⟨stack, .number complete⟩, ?_, .number finished⟩
  rw [Number.chars, same]
  -- The sign is a character of its own, and without it the first digit begins the value.
  by_cases negative : n < 0
  · have sign := step_of_beginsValue begins (c := '-') rfl (by decide) stack
    have step : Reader.step ⟨stack, .number ⟨true, [], [], false, [], .sign⟩⟩ c =
        some ⟨stack, .number begun⟩ := by
      have := signed []
      rw [decide_eq_true negative] at this
      simp [Reader.step, this]
    rw [if_pos negative, List.singleton_append, Reader.run_cons_of_step sign]
    exact (Reader.run_cons_of_step step rest).trans (runs stack)
  · have first : Reader.step ⟨stack, mode⟩ c = some ⟨stack, .number begun⟩ := by
      rw [step_of_beginsValue begins (isBlank_of_isDigit isDigit) (ne_of_isDigit isDigit rfl),
        beginValue_of_isDigit isDigit, unsigned (decide_eq_false negative)]
      rfl
    rw [if_neg negative, List.nil_append, Reader.run_cons_of_step first, runs]

/-- An integer that 64 bits hold, with or without a sign, is the number of its numeral. -/
theorem number?_of_integer {n : Int} (above : -0x8000000000000000 ≤ n)
    (below : n < 0x10000000000000000) :
    Numeral.number? ⟨decide (n < 0), Nat.toDigits 10 n.natAbs, [], none⟩ = some (.integer n) := by
  unfold Numeral.number?
  dsimp only
  rw [digitsValue_toDigits]
  by_cases negative : n < 0
  · have fits : n.natAbs ≠ 0 ∧ n.natAbs ≤ 0x8000000000000000 := by omega
    have value : -(n.natAbs : Int) = n := by omega
    rw [decide_eq_true negative, if_pos rfl, if_pos rfl, decide_eq_true fits, value]
    rfl
  · have fits : n.natAbs < 0x10000000000000000 := by omega
    have value : (n.natAbs : Int) = n := by omega
    rw [decide_eq_false negative, if_neg Bool.false_ne_true, if_neg Bool.false_ne_true,
      decide_eq_true fits, value]
    rfl

/-! ## Containers -/

private theorem commaSeparated_cons {rest : List (List Char)} (more : rest ≠ [])
    (separator first : List Char) :
    Value.commaSeparated separator (first :: rest) =
      first ++ ',' :: (separator ++ Value.commaSeparated separator rest) := by
  cases rest with
  | nil => exact (more rfl).elim
  | cons => simp [Value.commaSeparated]

/-- How a container is read among open frames. Where an entry may begin, blanks are skipped; an
entry is read, and another one or the end follows it. -/
structure IsContainer {α : Type} (first last : Char) (IsEntry : List Char → α → Prop)
    (make : List α → Tree) (Begins : List Frame → List α → Reader → Prop) : Prop where
  marked : isBlank first = false ∧ first ≠ ']'
  closes : isDelimiter last = true
  opens : ∀ outer, ∃ reader, beginValue outer first = some reader ∧ Begins outer [] reader ∧
    reader.step last = some ⟨outer, .after (make [])⟩
  skips : ∀ {outer before reader}, Begins outer before reader → ∀ c, isBlank c = true →
    reader.step c = some reader
  reads : ∀ {outer before reader text entry}, Begins outer before reader → IsEntry text entry →
    ∃ stack tree ended next, reader.run text = some ended ∧ ended.Holds stack tree ∧
      stepAfter stack tree ',' = some next ∧ Begins outer (entry :: before) next ∧
      stepAfter stack tree last = some ⟨outer, .after (make (entry :: before).reverse)⟩

namespace IsContainer

variable {α : Type} {first last : Char} {IsEntry : List Char → α → Prop} {make : List α → Tree}
  {Begins : List Frame → List α → Reader → Prop} {lead separator tail : List Char}
  {texts : List (List Char)} {entries : List α}

/-- The entries are read in order to the end. -/
theorem run_entries (container : IsContainer first last IsEntry make Begins)
    (blankSeparator : ∀ c ∈ separator, isBlank c = true)
    (blankTail : ∀ c ∈ tail, isBlank c = true) (each : List.Forall₂ IsEntry texts entries)
    (nonempty : texts ≠ []) {outer : List Frame} {before : List α} {reader : Reader}
    (begins : Begins outer before reader) :
    reader.run (Value.commaSeparated separator texts ++ (tail ++ [last])) =
      some ⟨outer, .after (make (before.reverse ++ entries))⟩ := by
  induction each generalizing before reader with
  | nil => exact (nonempty rfl).elim
  | @cons text entry texts entries spelled others ih =>
      obtain ⟨stack, tree, ended, next, runs, holds, comma, again, closing⟩ :=
        container.reads begins spelled
      -- The last entry is followed by the tail, any other by a comma and the rest.
      by_cases alone : texts = []
      · subst alone
        obtain rfl := List.forall₂_nil_left_iff.mp others
        obtain ⟨stopped, skipped, held⟩ := holds.run_blanks blankTail
        rw [Value.commaSeparated, Reader.run_append_of_run runs, Reader.run_append_of_run skipped,
          ← List.reverse_cons]
        exact Reader.run_cons_of_step ((held.step container.closes).trans closing) []
      · have skipped : next.run separator = some next :=
          Reader.run_blanks (container.skips again) blankSeparator
        rw [commaSeparated_cons alone, List.append_assoc, Reader.run_append_of_run runs,
          List.cons_append, Reader.run_cons_of_step ((holds.step rfl).trans comma),
          List.append_assoc, Reader.run_append_of_run skipped, ih alone again, List.reverse_cons,
          List.append_assoc, List.singleton_append]

/-- A container is spelled by its entries between its brackets, with blanks behind the first
bracket, behind each comma, and before the last bracket. -/
theorem spells (container : IsContainer first last IsEntry make Begins)
    (blankLead : ∀ c ∈ lead, isBlank c = true) (blankSeparator : ∀ c ∈ separator, isBlank c = true)
    (blankTail : ∀ c ∈ tail, isBlank c = true) (each : List.Forall₂ IsEntry texts entries) :
    Spells (first :: (lead ++ (Value.commaSeparated separator texts ++ (tail ++ [last]))))
      (make entries) := by
  intro stack mode valueBegins
  refine ⟨_, ?_, .whole⟩
  obtain ⟨reader, opens, begins, empty⟩ := container.opens stack
  have opened : Reader.step ⟨stack, mode⟩ first = some reader :=
    (step_of_beginsValue valueBegins container.marked.1 container.marked.2 stack).trans opens
  have skips := container.skips begins
  rw [Reader.run_cons_of_step opened, Reader.run_append_of_run (Reader.run_blanks skips blankLead)]
  by_cases nothing : texts = []
  · subst nothing
    obtain rfl := List.forall₂_nil_left_iff.mp each
    rw [Value.commaSeparated, List.nil_append,
      Reader.run_append_of_run (Reader.run_blanks skips blankTail)]
    exact Reader.run_cons_of_step empty []
  · rw [container.run_entries blankSeparator blankTail each nothing begins, List.reverse_nil,
      List.nil_append]

end IsContainer

/-- Items are read on top of an open array. -/
def BeginsItem (outer : List Frame) (before : List Tree) (reader : Reader) : Prop :=
  reader.stack = .array before :: outer ∧ reader.mode.BeginsValue

/-- An array is a container of what spells values, between brackets. -/
theorem array_isContainer : IsContainer '[' ']' Spells .array BeginsItem where
  marked := ⟨rfl, by decide⟩
  closes := rfl
  opens := fun outer => ⟨_, rfl, ⟨rfl, .inr rfl⟩, rfl⟩
  skips := by
    rintro outer before ⟨_, _⟩ ⟨rfl, rfl | rfl⟩ c blank <;> exact if_pos blank
  reads := by
    rintro outer before ⟨_, mode⟩ text entry ⟨rfl, begins⟩ spells
    obtain ⟨ended, runs, holds⟩ := spells _ mode begins
    exact ⟨_, _, ended, _, runs, holds, rfl, ⟨rfl, .inl rfl⟩, rfl⟩

/-- Members are read below the frames that are open, and the first one may find the object empty. -/
def BeginsMember (outer : List Frame) (before : List (List TextUnit × Tree)) (reader : Reader) :
    Prop :=
  reader = ⟨outer, .nextMember before⟩ ∨ reader = ⟨outer, .firstMember⟩ ∧ before = []

/-- A member is spelled by its key in quotes, a colon, and its value behind blanks. -/
def SpellsMember (text : List Char) (member : List TextUnit × Tree) : Prop :=
  ∃ key gap chars, text = quote key ++ ':' :: (gap ++ chars) ∧
    (∀ stack role, Reader.run ⟨stack, .text role [] .none⟩ (key.flatMap escape ++ ['"']) =
      some (endText stack role member.1.reverse)) ∧
    (∀ c ∈ gap, isBlank c = true) ∧ Spells chars member.2

/-- An object is a container of what spells members, between braces. -/
theorem object_isContainer : IsContainer '{' '}' SpellsMember .object BeginsMember where
  marked := ⟨rfl, by decide⟩
  closes := rfl
  opens := fun outer => ⟨_, rfl, .inr ⟨rfl, rfl⟩, rfl⟩
  skips := by
    rintro outer before reader (rfl | ⟨rfl, -⟩) c blank <;> exact if_pos blank
  reads := by
    rintro outer before reader text ⟨units, value⟩ begins ⟨key, gap, chars, rfl, runsKey, blank,
      spells⟩
    have opened : reader.step '"' = some ⟨outer, .text (.key before) [] .none⟩ := by
      rcases begins with rfl | ⟨rfl, rfl⟩ <;> rfl
    have skipped : Reader.run ⟨.object before units :: outer, .value⟩ gap =
        some ⟨.object before units :: outer, .value⟩ :=
      Reader.run_blanks (fun c isBlank => if_pos isBlank) blank
    obtain ⟨ended, runs, holds⟩ := spells (.object before units :: outer) .value (.inl rfl)
    refine ⟨_, value, ended, _, ?_, holds, rfl, .inl rfl, rfl⟩
    rw [quote, List.cons_append, Reader.run_cons_of_step opened,
      Reader.run_append_of_run (runsKey ..), endText, List.reverse_reverse]
    refine (Reader.run_cons_of_step rfl _).trans ?_
    rw [Reader.run_append_of_run skipped, runs]

end FlowCheck.Json
