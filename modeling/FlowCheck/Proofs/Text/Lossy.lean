import FlowCheck.Text.Lossy
import Mathlib.Tactic.Common

/-! # What bytes are read as

Reading undoes writing: where bytes are the UTF-8 form of a text, they are read as this text,
whatever stands behind them. A byte that no character begins with is read as one replacement.
-/

namespace FlowCheck.Text

variable {lead second third fourth : UInt8} {rest : List UInt8}

/-- The bytes that continue a character are those from 80 to BF. -/
theorem continues_iff {byte : UInt8} :
    continues byte = true ↔ 0x80 ≤ byte.toNat ∧ byte.toNat ≤ 0xBF := by
  simp [continues, UInt8.le_iff_toNat_le]

/-- Behind four of the leads, not every byte that continues a character can be the second. -/
theorem isSecond_iff {byte : UInt8} :
    isSecond lead byte = true ↔ continues byte = true ∧
      (lead.toNat = 0xE0 → 0xA0 ≤ byte.toNat) ∧ (lead.toNat = 0xED → byte.toNat ≤ 0x9F) ∧
      (lead.toNat = 0xF0 → 0x90 ≤ byte.toNat) ∧ (lead.toNat = 0xF4 → byte.toNat ≤ 0x8F) := by
  simp only [isSecond, Bool.and_eq_true, UInt8.le_iff_toNat_le, ← UInt8.toNat_inj,
    and_congr_right_iff]
  intro _
  repeat' split
  all_goals simp_all

/-! ## Characters of one to four bytes -/

private theorem firstChar_of_one (ascii : lead.toNat < 0x80) :
    firstChar lead rest = (Char.ofNat lead.toNat, 0) := by
  rw [firstChar.eq_def, if_pos (UInt8.lt_iff_toNat_lt.mpr ascii)]

private theorem firstChar_of_two (low : 0xC2 ≤ lead.toNat) (high : lead.toNat ≤ 0xDF)
    (follows : continues second = true) :
    firstChar lead (second :: rest) = (assemble (lead.toNat - 0xC0) [second], 1) := by
  have large : ¬ lead.toNat < 0x80 := by omega
  simp [firstChar, UInt8.le_iff_toNat_le, UInt8.lt_iff_toNat_lt, large, low, high, follows]

private theorem firstChar_of_three (low : 0xE0 ≤ lead.toNat) (high : lead.toNat ≤ 0xEF)
    (begins : isSecond lead second = true) (follows : continues third = true) :
    firstChar lead (second :: third :: rest) =
      (assemble (lead.toNat - 0xE0) [second, third], 2) := by
  have large : ¬ lead.toNat < 0x80 ∧ ¬ lead.toNat ≤ 0xDF := by omega
  simp [firstChar, UInt8.le_iff_toNat_le, UInt8.lt_iff_toNat_lt, large, low, high, begins, follows]

private theorem firstChar_of_four (low : 0xF0 ≤ lead.toNat) (high : lead.toNat ≤ 0xF4)
    (begins : isSecond lead second = true) (follows : continues third = true)
    (ends : continues fourth = true) :
    firstChar lead (second :: third :: fourth :: rest) =
      (assemble (lead.toNat - 0xF0) [second, third, fourth], 3) := by
  have large : ¬ lead.toNat < 0x80 ∧ ¬ lead.toNat ≤ 0xDF ∧ ¬ lead.toNat ≤ 0xEF := by omega
  simp [firstChar, UInt8.le_iff_toNat_le, UInt8.lt_iff_toNat_lt, large, low, high, begins, follows,
    ends]

section Codes

variable {code : Nat}

private theorem toNat_ofNat_of_lt (small : code < 256) : (UInt8.ofNat code).toNat = code := by
  rw [UInt8.toNat_ofNat']
  omega

private theorem toNat_sextet (code : Nat) :
    (UInt8.ofNat (code % 64 + 128)).toNat = code % 64 + 128 :=
  toNat_ofNat_of_lt (by omega)

private theorem continues_sextet (code : Nat) :
    continues (UInt8.ofNat (code % 64 + 128)) = true := by
  rw [continues_iff, toNat_sextet]
  omega

private theorem assemble_cons (bits code : Nat) (more : List UInt8) :
    assemble bits (UInt8.ofNat (code % 64 + 128) :: more) =
      assemble (bits * 64 + code % 64) more := by
  rw [assemble, List.foldl_cons, toNat_sextet, Nat.add_sub_cancel]
  rfl

private theorem firstChar_two (many : 127 < code) (few : code ≤ 2047) :
    firstChar (UInt8.ofNat (code / 64 % 32 + 192)) (UInt8.ofNat (code % 64 + 128) :: rest) =
      (Char.ofNat code, 1) := by
  have isLead : (UInt8.ofNat (code / 64 % 32 + 192)).toNat = code / 64 % 32 + 192 :=
    toNat_ofNat_of_lt (by omega)
  have whole : (code / 64 % 32 + 192 - 0xC0) * 64 + code % 64 = code := by omega
  rw [firstChar_of_two (by omega) (by omega) (continues_sextet _), isLead, assemble_cons, whole]
  rfl

private theorem firstChar_three (many : 2047 < code) (few : code ≤ 65535)
    (valid : code < 0xD800 ∨ 0xDFFF < code) :
    firstChar (UInt8.ofNat (code / 4096 % 16 + 224))
      (UInt8.ofNat (code / 64 % 64 + 128) :: UInt8.ofNat (code % 64 + 128) :: rest) =
        (Char.ofNat code, 2) := by
  have isLead : (UInt8.ofNat (code / 4096 % 16 + 224)).toNat = code / 4096 % 16 + 224 :=
    toNat_ofNat_of_lt (by omega)
  have begins : isSecond (UInt8.ofNat (code / 4096 % 16 + 224))
      (UInt8.ofNat (code / 64 % 64 + 128)) = true := by
    rw [isSecond_iff, isLead, toNat_sextet]
    refine ⟨continues_sextet _, ?_⟩
    omega
  have whole : ((code / 4096 % 16 + 224 - 0xE0) * 64 + code / 64 % 64) * 64 + code % 64 = code := by
    omega
  rw [firstChar_of_three (by omega) (by omega) begins (continues_sextet _), isLead, assemble_cons,
    assemble_cons, whole]
  rfl

private theorem firstChar_four (many : 65535 < code) (few : code < 0x110000) :
    firstChar (UInt8.ofNat (code / 262144 % 8 + 240))
      (UInt8.ofNat (code / 4096 % 64 + 128) :: UInt8.ofNat (code / 64 % 64 + 128) ::
        UInt8.ofNat (code % 64 + 128) :: rest) = (Char.ofNat code, 3) := by
  have isLead : (UInt8.ofNat (code / 262144 % 8 + 240)).toNat = code / 262144 % 8 + 240 :=
    toNat_ofNat_of_lt (by omega)
  have begins : isSecond (UInt8.ofNat (code / 262144 % 8 + 240))
      (UInt8.ofNat (code / 4096 % 64 + 128)) = true := by
    rw [isSecond_iff, isLead, toNat_sextet]
    refine ⟨continues_sextet _, ?_⟩
    omega
  have whole : (((code / 262144 % 8 + 240 - 0xF0) * 64 + code / 4096 % 64) * 64 +
      code / 64 % 64) * 64 + code % 64 = code := by
    omega
  rw [firstChar_of_four (by omega) (by omega) begins (continues_sextet _) (continues_sextet _),
    isLead, assemble_cons, assemble_cons, assemble_cons, whole]
  rfl

end Codes

/-! ## Texts -/

/-- The bytes of a character are read as this character, whatever stands behind them. -/
theorem readOnto_utf8EncodeChar (done : List Char) (c : Char) (rest : List UInt8) :
    readOnto done (String.utf8EncodeChar c ++ rest) = readOnto (c :: done) rest := by
  have isCode : Char.ofNat c.val.toNat = c := Char.ofNat_toNat c
  have valid : c.val.toNat < 0xD800 ∨ 0xDFFF < c.val.toNat ∧ c.val.toNat < 0x110000 := c.valid
  unfold String.utf8EncodeChar
  dsimp only
  generalize c.val.toNat = code at isCode valid
  subst isCode
  -- The lengths of UTF-8 are told apart by the size of the code.
  by_cases one : code ≤ 127
  · have isLead : (UInt8.ofNat code).toNat = code := toNat_ofNat_of_lt (by omega)
    rw [if_pos one, List.singleton_append, readOnto, firstChar_of_one (by omega), isLead]
    rfl
  · rw [if_neg one]
    by_cases two : code ≤ 2047
    · rw [if_pos two, List.cons_append, List.singleton_append, readOnto,
        firstChar_two (by omega) two]
      rfl
    · rw [if_neg two]
      by_cases three : code ≤ 65535
      · rw [if_pos three, List.cons_append, List.cons_append, List.singleton_append, readOnto,
          firstChar_three (by omega) three (by omega)]
        rfl
      · rw [if_neg three, List.cons_append, List.cons_append, List.cons_append,
          List.singleton_append, readOnto, firstChar_four (by omega) (by omega)]
        rfl

/-- Characters that are already read stay in front. -/
theorem readOnto_eq (done : List Char) : ∀ bytes : List UInt8,
    readOnto done bytes = done.reverse ++ readOnto [] bytes
  | [] => by simp [readOnto]
  | lead :: rest => by
      rw [readOnto, readOnto, readOnto_eq (_ :: done), readOnto_eq [_]]
      simp
termination_by bytes => bytes.length
decreasing_by all_goals simp only [List.length_drop, List.length_cons]; omega

private theorem toList_loop_eq (bytes : ByteArray) (place : Nat) (done : List UInt8) :
    ByteArray.toList.loop bytes place done = done.reverse ++ bytes.data.toList.drop place := by
  fun_induction ByteArray.toList.loop bytes place done with
  | case1 place done inside ih =>
      have within : place < bytes.data.toList.length := by simpa using inside
      rw [ih, List.drop_eq_getElem_cons within]
      simp [ByteArray.get!, inside]
  | case2 place done outside =>
      rw [List.drop_eq_nil_of_le (by simpa using Nat.le_of_not_lt outside), List.append_nil]

private theorem toList_toUTF8 (text : String) :
    text.toUTF8.toList = text.toList.flatMap String.utf8EncodeChar := by
  rw [ByteArray.toList, toList_loop_eq, List.reverse_nil, List.nil_append, List.drop_zero,
    String.toUTF8_eq_toByteArray, ← String.utf8Encode_toList]
  exact List.toList_data_toByteArray

/-- A text is read back from its bytes, and what stands behind them is read as if it were alone. -/
theorem ofBytes_append (text : String) (bytes : List UInt8) :
    ofBytes (text.toUTF8.toList ++ bytes) = text ++ ofBytes bytes := by
  have reads : ∀ (chars done : List Char),
      readOnto done (chars.flatMap String.utf8EncodeChar ++ bytes) =
        done.reverse ++ chars ++ readOnto [] bytes := by
    intro chars
    induction chars with
    | nil =>
        intro done
        rw [List.flatMap_nil, List.nil_append, readOnto_eq, List.append_nil]
    | cons c chars ih =>
        intro done
        rw [List.flatMap_cons, List.append_assoc, readOnto_utf8EncodeChar, ih]
        simp
  rw [ofBytes, toList_toUTF8, reads, List.reverse_nil, List.nil_append, String.ofList_append,
    String.ofList_toList]
  rfl

/-- Reading undoes writing. -/
theorem ofBytes_toUTF8 (text : String) : ofBytes text.toUTF8.toList = text := by
  have alone := ofBytes_append text []
  rwa [List.append_nil, show ofBytes [] = "" by simp [ofBytes, readOnto], String.append_empty]
    at alone

/-- A byte that no character begins with is read as one replacement. -/
theorem ofBytes_cons_of_stray (bytes : List UInt8)
    (stray : 0x80 ≤ lead.toNat ∧ lead.toNat < 0xC2 ∨ 0xF4 < lead.toNat) :
    ofBytes (lead :: bytes) = String.singleton replacement ++ ofBytes bytes := by
  have unread : firstChar lead bytes = (replacement, 0) := by
    have range : ¬ lead.toNat < 0x80 ∧ ¬ (0xC2 ≤ lead.toNat ∧ lead.toNat ≤ 0xDF) ∧
        ¬ (0xE0 ≤ lead.toNat ∧ lead.toNat ≤ 0xEF) ∧
        ¬ (0xF0 ≤ lead.toNat ∧ lead.toNat ≤ 0xF4) := by
      omega
    rw [firstChar.eq_def]
    simp [UInt8.le_iff_toNat_le, UInt8.lt_iff_toNat_lt, range]
  rw [ofBytes, readOnto, unread, readOnto_eq, String.ofList_append]
  rfl

end FlowCheck.Text
