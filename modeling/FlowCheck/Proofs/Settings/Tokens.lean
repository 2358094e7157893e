import FlowCheck.Proofs.Json.Spelling
import FlowCheck.Proofs.Yaml.Reading
import FlowCheck.Settings.Writer

/-! # The tokens of written settings

Each line of a settings file is read as a key with its value, or as an item of the list above it.
What the texts in it hold does not matter: none of them reaches beyond its own lines.
-/

namespace FlowCheck.Settings

open Yaml Yaml.Reading

/-! ## Lines -/

/-- The tokens of a key. -/
def keyTokens (key : String) : List Token :=
  [.key, .scalar key.toList .plain, .value]

/-- The token of a text. -/
def textToken (text : String) : Token :=
  .scalar text.toList (scalarFormOf text.toList)

/-- The lines of the items of a list. -/
def itemLines (texts : List String) : List Char :=
  texts.flatMap fun text => ['-', ' '] ++ writeText text.toList

/-- The tokens of the items of a list. -/
def itemTokens (texts : List String) : List Token :=
  texts.flatMap fun text => [.blockEntry, textToken text]

/-- The tokens of a list. -/
def listTokens (texts : List String) : List Token :=
  if texts = [] then [.flowSequenceStart, .flowSequenceEnd] else itemTokens texts

section Lines

variable {key : String} {rest : List Char} {mark : Mark} {indents : List Nat} {tokens : List Token}

private theorem column_past_yamlField (key text : String) (mark : Mark) :
    (mark.past (yamlField key text)).column = 0 := by
  rw [yamlField, Mark.past_append]
  exact column_past_writeText _ _

/-- A field with a text is read to its key and its text. -/
theorem leads_yamlField (isKey : IsKey key.toList) (place : mark.column = 0)
    (known : indents = [] ∨ indents = [0]) (text : String) (starts : StartsLine rest) :
    Leads (atLine (yamlField key text ++ rest) mark indents tokens)
      (atLine rest (mark.past (yamlField key text)) [0]
        ((keyTokens key ++ [textToken text]).reverse ++ opened indents tokens)) := by
  have written : yamlField key text ++ rest =
      key.toList ++ ':' :: (' ' :: writeText text.toList ++ rest) := by
    simp [yamlField]
  have behind : mark.past (yamlField key text) =
      ((mark.past key.toList).after ':').past (' ' :: writeText text.toList) := by
    simp [yamlField, Mark.past_append]
  rw [written, behind]
  exact (leads_key isKey place known rfl).trans (leads_text text.toList starts)

private theorem startsLine_itemLines (texts : List String) (starts : StartsLine rest) :
    StartsLine (itemLines texts ++ rest) := by
  cases texts with
  | nil => exact starts
  | cons text texts =>
      rintro c ⟨⟩
      decide

private theorem column_past_itemLines (place : mark.column = 0) (texts : List String) :
    (mark.past (itemLines texts)).column = 0 := by
  induction texts generalizing mark with
  | nil => exact place
  | cons text texts ih =>
      rw [itemLines, List.flatMap_cons, Mark.past_append]
      refine ih ?_
      rw [Mark.past_append]
      exact column_past_writeText _ _

private theorem leads_itemLines (place : mark.column = 0) (texts : List String)
    (starts : StartsLine rest) :
    Leads (atLine (itemLines texts ++ rest) mark [0] tokens)
      (atLine rest (mark.past (itemLines texts)) [0] ((itemTokens texts).reverse ++ tokens)) := by
  induction texts generalizing mark tokens with
  | nil => exact .refl _
  | cons text texts ih =>
      have written : itemLines (text :: texts) ++ rest =
          '-' :: ' ' :: (writeText text.toList ++ (itemLines texts ++ rest)) := by
        simp [itemLines]
      have behind : mark.past (itemLines (text :: texts)) =
          ((mark.after '-').past (' ' :: writeText text.toList)).past (itemLines texts) := by
        simp [itemLines, Mark.past_append]
      have reversed : (itemTokens (text :: texts)).reverse ++ tokens =
          (itemTokens texts).reverse ++ (textToken text :: .blockEntry :: tokens) := by
        simp [itemTokens]
      have column : ((mark.after '-').past (' ' :: writeText text.toList)).column = 0 := by
        rw [Mark.past_cons]
        exact column_past_writeText _ _
      rw [written, behind, reversed]
      exact ((leads_dash place _ tokens).trans
        (leads_text text.toList (startsLine_itemLines texts starts))).trans (ih column)

private theorem column_past_yamlList (key : String) (texts : List String) (mark : Mark) :
    (mark.past (yamlList key texts)).column = 0 := by
  cases texts with
  | nil =>
      rw [yamlList, Mark.past_append]
      rfl
  | cons text texts =>
      have behind : mark.past (yamlList key (text :: texts)) =
          (mark.past (key.toList ++ [':', '\n'])).past (itemLines (text :: texts)) := by
        rw [← Mark.past_append]
        rfl
      rw [behind]
      refine column_past_itemLines ?_ _
      rw [Mark.past_append]
      rfl

/-- A field with a list is read to its key and its list. -/
theorem leads_yamlList (isKey : IsKey key.toList) (place : mark.column = 0) (texts : List String)
    (starts : StartsLine rest) :
    Leads (atLine (yamlList key texts ++ rest) mark [0] tokens)
      (atLine rest (mark.past (yamlList key texts)) [0]
        ((keyTokens key ++ listTokens texts).reverse ++ tokens)) := by
  cases texts with
  | nil =>
      have written : yamlList key [] ++ rest =
          key.toList ++ ':' :: (' ' :: '[' :: ']' :: '\n' :: rest) := by
        rw [yamlList, List.append_assoc]
        rfl
      have behind : mark.past (yamlList key []) =
          ((mark.past key.toList).after ':').past [' ', '[', ']', '\n'] := by
        rw [yamlList, Mark.past_append]
        rfl
      rw [written, behind]
      exact (leads_key isKey place (.inr rfl) rfl).trans (leads_brackets starts _ _)
  | cons text texts =>
      let lines := itemLines (text :: texts)
      have written : yamlList key (text :: texts) ++ rest =
          key.toList ++ ':' :: ('\n' :: (lines ++ rest)) := by
        simp [yamlList, lines, itemLines]
      have behind : mark.past (yamlList key (text :: texts)) =
          (((mark.past key.toList).after ':').after '\n').past lines := by
        simp [yamlList, lines, itemLines, Mark.past_append]
      have reversed : (keyTokens key ++ listTokens (text :: texts)).reverse ++ tokens =
          (itemTokens (text :: texts)).reverse ++
            (.value :: .scalar key.toList .plain :: .key :: tokens) := by
        simp [keyTokens, listTokens]
      have startsItems : StartsLine (lines ++ rest) := startsLine_itemLines _ starts
      have column : (((mark.past key.toList).after ':').after '\n').column = 0 := rfl
      rw [written, behind, reversed]
      refine (leads_key isKey place (.inr rfl) rfl).trans (.trans ?_
        (leads_itemLines column (text :: texts) starts))
      exact leads_atLine startsItems (skipGap_line startsItems false true _) nofun
        (Nat.le_succ _)

/-! ## Numbers -/

private theorem isWordChar_of_isDigit {c : Char} (isDigit : c.isDigit = true) : IsWordChar c := by
  have range : '0' ≤ c ∧ c ≤ '9' := by
    simp only [Char.isDigit, Bool.and_eq_true, decide_eq_true_iff] at isDigit
    exact isDigit
  refine ⟨by simp [isNameChar, range], ?_⟩
  rintro rfl
  cases isDigit

private theorem toDigits_isPlain (n : Nat) : IsPlain (Nat.toDigits 10 n) := by
  obtain ⟨first, rest, same, isDigit, others, -⟩ := Json.toDigits_eq_cons n
  rw [same]
  refine isPlain_of_word (List.cons_ne_nil _ _) ?_
  exact List.forall_mem_cons.mpr ⟨isWordChar_of_isDigit isDigit,
    fun c inside => isWordChar_of_isDigit (others c inside)⟩

/-- A number under a key. -/
def numberField (key : String) (n : Nat) : List Char :=
  key.toList ++ ':' :: ' ' :: (Nat.toDigits 10 n ++ ['\n'])

/-- The token of a number. -/
def numberToken (n : Nat) : Token :=
  .scalar (Nat.toDigits 10 n) .plain

private theorem leads_numberField (isKey : IsKey key.toList) (place : mark.column = 0) (n : Nat)
    (starts : StartsLine rest) :
    Leads (atLine (numberField key n ++ rest) mark [0] tokens)
      (atLine rest (mark.past (numberField key n)) [0]
        ((keyTokens key ++ [numberToken n]).reverse ++ tokens)) := by
  have written : numberField key n ++ rest =
      key.toList ++ ':' :: (' ' :: (Nat.toDigits 10 n ++ ['\n']) ++ rest) := by
    simp [numberField]
  have behind : mark.past (numberField key n) =
      ((mark.past key.toList).after ':').past (' ' :: (Nat.toDigits 10 n ++ ['\n'])) := by
    rw [numberField, Mark.past_append]
    rfl
  rw [written, behind]
  exact (leads_key isKey place (.inr rfl) rfl).trans (leads_plain (toDigits_isPlain n) starts)

end Lines

/-! ## The whole file -/

/-- The line of a timeout, if it is set. -/
def secondsLine (timeout : Option UInt64) : List Char :=
  timeout.elim [] fun seconds => numberField "timeout_secs" seconds.toNat

/-- The tokens of a timeout, if it is set. -/
def secondsTokens (timeout : Option UInt64) : List Token :=
  timeout.elim [] fun seconds => keyTokens "timeout_secs" ++ [numberToken seconds.toNat]

/-- The tokens of settings between the beginning and the end of their mapping. -/
def entryTokens (settings : Settings) : List Token :=
  keyTokens "flow_path" ++ [textToken settings.executable] ++
    (keyTokens "args" ++ listTokens settings.arguments) ++
    (keyTokens "stdin_sentinel" ++ [textToken settings.sentinel]) ++
    secondsTokens settings.timeout

/-- The text of settings, field by field. -/
theorem yaml_toList (settings : Settings) :
    settings.yaml.toList = yamlField "flow_path" settings.executable ++
      (yamlList "args" settings.arguments ++
        (yamlField "stdin_sentinel" settings.sentinel ++
          (secondsLine settings.timeout ++ []))) := by
  have key : "timeout_secs: ".toList = "timeout_secs".toList ++ [':', ' '] := by decide +kernel
  rw [yaml, String.toList_ofList]
  cases settings.timeout with
  | none => simp only [List.append_assoc, secondsLine, Option.elim_none, List.append_nil]
  | some seconds =>
      simp only [List.append_assoc, secondsLine, Option.elim_some, numberField, key,
        List.append_nil, List.cons_append, List.nil_append]

private theorem isKey_executable : IsKey "flow_path".toList :=
  .of_all (by decide +kernel) (by decide +kernel) (by decide +kernel)

private theorem isKey_arguments : IsKey "args".toList :=
  .of_all (by decide +kernel) (by decide +kernel) (by decide +kernel)

private theorem isKey_sentinel : IsKey "stdin_sentinel".toList :=
  .of_all (by decide +kernel) (by decide +kernel) (by decide +kernel)

private theorem isKey_timeout : IsKey "timeout_secs".toList :=
  .of_all (by decide +kernel) (by decide +kernel) (by decide +kernel)

section Whole

variable {rest : List Char} {mark : Mark} {tokens : List Token}

private theorem startsLine_secondsLine (timeout : Option UInt64) :
    StartsLine (secondsLine timeout ++ []) := by
  cases timeout with
  | none => exact startsLine_nil
  | some seconds =>
      rw [secondsLine, Option.elim_some, numberField, List.append_assoc]
      exact isKey_timeout.startsLine _

private theorem leads_secondsLine (place : mark.column = 0) (timeout : Option UInt64) :
    Leads (atLine (secondsLine timeout ++ []) mark [0] tokens)
      (atLine [] (mark.past (secondsLine timeout)) [0]
        ((secondsTokens timeout).reverse ++ tokens)) := by
  cases timeout with
  | none => exact .refl _
  | some seconds => exact leads_numberField isKey_timeout place seconds.toNat startsLine_nil

/-- A settings file is read from its beginning to its end. -/
theorem leads_yaml (settings : Settings) : ∃ mark,
    Leads (atLine settings.yaml.toList {} [] [])
      (atLine [] mark [0] (settings.entryTokens.reverse ++ [.blockMappingStart])) := by
  have startsSentinel : StartsLine (yamlField "stdin_sentinel" settings.sentinel ++
      (secondsLine settings.timeout ++ [])) := by
    rw [yamlField, List.append_assoc, List.append_assoc]
    exact isKey_sentinel.startsLine _
  have startsArguments : StartsLine (yamlList "args" settings.arguments ++
      (yamlField "stdin_sentinel" settings.sentinel ++ (secondsLine settings.timeout ++ []))) := by
    unfold yamlList
    split
    · rw [List.append_assoc]
      exact isKey_arguments.startsLine _
    · rw [List.append_assoc, List.append_assoc]
      exact isKey_arguments.startsLine _
  have reversed : settings.entryTokens.reverse ++ [.blockMappingStart] =
      (secondsTokens settings.timeout).reverse ++
        ((keyTokens "stdin_sentinel" ++ [textToken settings.sentinel]).reverse ++
          ((keyTokens "args" ++ listTokens settings.arguments).reverse ++
            ((keyTokens "flow_path" ++ [textToken settings.executable]).reverse ++
              opened [] []))) := by
    simp only [entryTokens, List.reverse_append, List.append_assoc, opened, if_true]
  rw [yaml_toList, reversed]
  exact ⟨_, (leads_yamlField isKey_executable rfl (.inl rfl) _ startsArguments).trans
    ((leads_yamlList isKey_arguments (column_past_yamlField _ _ _) _ startsSentinel).trans
      ((leads_yamlField isKey_sentinel (column_past_yamlList _ _ _) (.inr rfl) _
          (startsLine_secondsLine settings.timeout)).trans
        (leads_secondsLine (column_past_yamlField _ _ _) settings.timeout)))⟩

/-! ### What the file consists of -/

variable {key : String}

private theorem yamlField_printable (isKey : IsKey key.toList) (text : String) :
    ∀ c ∈ yamlField key text, isPrintable c = true := by
  have colon : ∀ c ∈ [':', ' '], isPrintable c = true := List.all_eq_true.mp (by decide)
  simp only [yamlField, List.forall_mem_append]
  exact ⟨⟨fun c inside => (isKey.word c inside).isPrintable, colon⟩, writeText_printable _⟩

private theorem itemLines_printable (texts : List String) :
    ∀ c ∈ itemLines texts, isPrintable c = true := by
  have dash : ∀ c ∈ ['-', ' '], isPrintable c = true := List.all_eq_true.mp (by decide)
  intro c inside
  obtain ⟨text, -, inside⟩ := List.mem_flatMap.mp inside
  rcases List.mem_append.mp inside with before | written
  · exact dash c before
  · exact writeText_printable _ c written

private theorem yamlList_printable (isKey : IsKey key.toList) (texts : List String) :
    ∀ c ∈ yamlList key texts, isPrintable c = true := by
  have name : ∀ c ∈ key.toList, isPrintable c = true :=
    fun c inside => (isKey.word c inside).isPrintable
  have colon : ∀ c ∈ [':', '\n'], isPrintable c = true := List.all_eq_true.mp (by decide)
  have brackets : ∀ c ∈ ": []\n".toList, isPrintable c = true :=
    List.all_eq_true.mp (by decide +kernel)
  unfold yamlList
  split
  · exact List.forall_mem_append.mpr ⟨name, brackets⟩
  · exact List.forall_mem_append.mpr ⟨List.forall_mem_append.mpr ⟨name, colon⟩,
      itemLines_printable _⟩

private theorem numberField_printable (isKey : IsKey key.toList) (n : Nat) :
    ∀ c ∈ numberField key n, isPrintable c = true := by
  simp only [numberField, List.forall_mem_append, List.forall_mem_cons]
  exact ⟨fun c inside => (isKey.word c inside).isPrintable, by decide, by decide,
    fun c inside => ((toDigits_isPlain n).inline c inside).1, by decide, nofun⟩

/-- The text of settings is printable, whatever they hold. -/
theorem yaml_printable (settings : Settings) :
    ∀ c ∈ settings.yaml.toList, isPrintable c = true := by
  have seconds : ∀ c ∈ secondsLine settings.timeout, isPrintable c = true := by
    cases settings.timeout with
    | none => nofun
    | some seconds => exact numberField_printable isKey_timeout seconds.toNat
  rw [yaml_toList, List.append_nil]
  simp only [List.forall_mem_append]
  exact ⟨yamlField_printable isKey_executable _, yamlList_printable isKey_arguments _,
    yamlField_printable isKey_sentinel _, seconds⟩

end Whole

/-- A settings file has the tokens of its keys and values, whatever texts it holds. -/
theorem ofChars?_yaml (settings : Settings) :
    Token.ofChars? settings.yaml.toList =
      some (.blockMappingStart :: settings.entryTokens ++ [.blockEnd, .streamEnd]) := by
  have allowed := fun c inside => allowed_of_printable (settings.yaml_printable c inside)
  have all : settings.yaml.toList.all isAllowed = true :=
    List.all_eq_true.mpr fun c inside => (allowed c inside).1
  have unified := unifyBreaks_eq_self fun c inside => (allowed c inside).2
  obtain ⟨mark, steps, inTime, same⟩ := settings.leads_yaml
  obtain ⟨left, enough⟩ := Nat.exists_eq_add_of_le inTime
  have length : settings.yaml.toList.length = steps + left := by
    simpa [atLine] using enough
  rw [Token.ofChars?, if_pos all, unified]
  change run (settings.yaml.toList.length + 1) (atLine settings.yaml.toList {} [] []) = _
  rw [length]
  exact (same left).trans ((run_atLine_nil mark _ left).trans (by simp))

end FlowCheck.Settings
