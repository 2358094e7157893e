import FlowCheck.Proofs.Json.Spelling
import FlowCheck.Proofs.Yaml.Written
import FlowCheck.Yaml.Meaning

/-! # What written scalars mean

A text means itself in every form that it may be written in: it is plain only if it spells no value
of another type. The decimal digits of a number mean that number.
-/

namespace FlowCheck.Yaml

/-! ## Texts -/

/-- A plain scalar that means a text means itself. -/
theorem eq_of_plainValue?_text {text : List Char} {content : String}
    (means : plainValue? text = some (.text content)) : content = String.ofList text := by
  unfold plainValue? at means
  split at means
  · cases means
  split at means
  · cases means
  split at means
  next isInteger =>
    rw [means] at isInteger
    unfold integerValue? at isInteger
    split at isInteger <;> cases isInteger
  split at means
  · cases means
    rfl
  split at means
  · cases means
  · cases means
    rfl

/-- A plain scalar that reads as text is the text. -/
theorem plainValue?_of_readsAsText {text : List Char} (reads : readsAsText text = true) :
    plainValue? text = some (.text (String.ofList text)) := by
  unfold readsAsText at reads
  rw [Bool.and_eq_true] at reads
  obtain ⟨-, reads⟩ := reads
  split at reads
  next content means => rw [means, eq_of_plainValue?_text means]
  next => cases reads

/-- In whatever form a text is written, it is read as the text. -/
theorem scalarValue?_written (text : List Char) :
    scalarValue? none text (scalarFormOf text) = some (.text (String.ofList text)) := by
  have told := textForm_cases text
  unfold scalarFormOf
  cases form : TextForm.of text with
  | plain =>
      rw [form] at told
      exact plainValue?_of_readsAsText told.1
  | single | double | block => rfl

/-! ## Numbers -/

private theorem digitOf?_of_isDigit {c : Char} (isDigit : c.isDigit = true) :
    digitOf? 10 c = some (c.toNat - 48) := by
  have range : '0' ≤ c ∧ c ≤ '9' := by
    simp only [Char.isDigit, Bool.and_eq_true, decide_eq_true_iff] at isDigit
    exact isDigit
  have high : c.toNat ≤ 57 := range.2
  have small : c.toNat - 48 < 10 := by omega
  rw [digitOf?, hexValue?, if_pos range]
  simp [small]

private theorem natOf?_digits {digits : List Char} (filled : digits ≠ [])
    (each : ∀ c ∈ digits, c.isDigit = true) :
    natOf? 10 digits = some (Json.digitsValue digits) := by
  have fold : ∀ value, digits.foldlM
      (fun value c => (digitOf? 10 c).map fun digit => 10 * value + digit) value =
      some (digits.foldl (fun value c => 10 * value + (c.toNat - 48)) value) := by
    clear filled
    induction digits with
    | nil => exact fun _ => rfl
    | cons c rest ih =>
        rw [List.forall_mem_cons] at each
        intro value
        rw [List.foldlM_cons, digitOf?_of_isDigit each.1]
        exact ih each.2 _
  rw [natOf?, if_neg (by simpa using filled)]
  exact fold 0

/-- Digits without a leading zero are a decimal integer without a sign. -/
theorem integerOf?_toDigits (n : Nat) : integerOf? (Nat.toDigits 10 n) = some (n : Int) := by
  obtain ⟨first, rest, same, isDigit, others, zero⟩ := Json.toDigits_eq_cons n
  have value := Json.digitsValue_toDigits n
  rw [same] at value ⊢
  have noSign : first ≠ '-' ∧ first ≠ '+' := by
    constructor <;> rintro rfl <;> cases isDigit
  have noBase : namedBase? (first :: rest) = none := by
    unfold namedBase?
    split
    all_goals first
      | rfl
      | (next named =>
          obtain ⟨rfl, more⟩ := List.cons.inj named
          rw [(zero rfl).2] at more
          cases more)
  have noPadding : isPaddedNumber (first :: rest) = false := by
    by_cases isZero : first = '0'
    · rw [(zero isZero).2]
      simp [isPaddedNumber, noSign]
    · simp [isPaddedNumber, noSign, isZero]
  have magnitude : magnitudeOf? (first :: rest) = some n := by
    rw [magnitudeOf?, noBase]
    simp only [noPadding]
    rw [← value]
    exact natOf?_digits (List.cons_ne_nil _ _) (List.forall_mem_cons.mpr ⟨isDigit, others⟩)
  have noPlus : withoutPlus (first :: rest) = first :: rest := by
    unfold withoutPlus
    split
    next plus => exact absurd (List.cons.inj plus).1 noSign.2
    next => rfl
  unfold integerOf?
  split
  next minus => exact absurd (List.cons.inj minus).1 noSign.1
  next => rw [noPlus, magnitude]; rfl

/-- No name of a value begins with a digit. -/
theorem any_name_eq_false (names : List String)
    (letters : (names.all fun name => name.toList.head?.all fun c => !c.isDigit) = true)
    {first : Char} (isDigit : first.isDigit = true) (rest : List Char) :
    (names.any fun name => name.toList = first :: rest) = false := by
  rw [List.any_eq_false]
  intro name inside same
  rw [decide_eq_true_iff] at same
  have noDigit := List.all_eq_true.mp letters name inside
  rw [same, List.head?_cons, Option.all_some, isDigit] at noDigit
  cases noDigit

/-- The digits of a number that fits mean the number. -/
theorem plainValue?_toDigits {n : Nat} (fits : n < 0x10000000000000000) :
    plainValue? (Nat.toDigits 10 n) = some (.integer n) := by
  have integer := integerOf?_toDigits n
  have fit : integerFit (n : Int) = .fits n := if_pos (by omega)
  have value : integerValue? (Nat.toDigits 10 n) = some (some (.integer n)) := by
    rw [integerValue?, integer, Option.map_some, fit]
  obtain ⟨first, rest, same, isDigit, -⟩ := Json.toDigits_eq_cons n
  rw [same] at value ⊢
  have noNull : isNullText (first :: rest) = false :=
    any_name_eq_false ["null", "Null", "NULL", "~"] (by decide +kernel) isDigit rest
  have noTrue := any_name_eq_false ["true", "True", "TRUE"] (by decide +kernel) isDigit rest
  have noFalse := any_name_eq_false ["false", "False", "FALSE"] (by decide +kernel) isDigit rest
  have noBool : boolOf? (first :: rest) = none := by
    rw [boolOf?, noTrue, noFalse]
    rfl
  rw [plainValue?, noNull, noBool, value]
  rfl

end FlowCheck.Yaml
