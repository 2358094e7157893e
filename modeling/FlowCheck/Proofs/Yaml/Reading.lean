import FlowCheck.Proofs.Yaml.Written
import FlowCheck.Yaml.Token.Stream

/-! # What is written is read token by token

The lines of a settings file are read one after the other, each from a reading that stands at the
beginning of a line and has no key left over. A reading leads to a later one if it comes there by
no more steps than there are characters between them, so a fuel that suffices for the whole text
suffices for each part.
-/

namespace FlowCheck.Yaml

namespace Reading

/-- A reading comes to another one, and in time. -/
def Leads (before after : Reading) : Prop :=
  ∃ steps, steps + after.cursor.rest.length ≤ before.cursor.rest.length ∧
    ∀ fuel, run (steps + fuel + 1) before = run (fuel + 1) after

/-- A reading leads to itself. -/
theorem Leads.refl (reading : Reading) : reading.Leads reading :=
  ⟨0, by omega, fun fuel => by rw [Nat.zero_add]⟩

/-- What a reading leads to leads on. -/
theorem Leads.trans {first second third : Reading} (left : first.Leads second)
    (right : second.Leads third) : first.Leads third := by
  obtain ⟨steps, inTime, same⟩ := left
  obtain ⟨more, inTimeToo, sameToo⟩ := right
  refine ⟨steps + more, by omega, fun fuel => ?_⟩
  rw [Nat.add_assoc steps, same, sameToo]

variable {before here after : Reading}

/-- One token leads on. -/
theorem leads_of_token {c : Char} {rest : List Char}
    (settles : before.toToken.dropStaleKeys = some here) (next : here.cursor.rest = c :: rest)
    (read : (here.closeBlocks here.cursor.mark.column).readToken c rest = some after)
    (shorter : after.cursor.rest.length < before.cursor.rest.length) : before.Leads after := by
  refine ⟨1, by omega, fun fuel => ?_⟩
  rw [Nat.add_comm 1, run, settles]
  simp only [Option.bind_eq_bind, Option.bind_some]
  rw [next]
  simp only
  rw [read]
  rfl

/-- A gap leads on. -/
theorem leads_of_gap (settles : before.toToken.dropStaleKeys = some after)
    (settled : after.toToken.dropStaleKeys = some after)
    (shorter : after.cursor.rest.length ≤ before.cursor.rest.length) : before.Leads after := by
  refine ⟨0, by omega, fun fuel => ?_⟩
  rw [Nat.zero_add, run, run, settles, settled]

private theorem closeBlocks_eq_self {reading : Reading} {column : Nat}
    (inside : ∀ indent ∈ reading.indents, indent ≤ column) :
    reading.closeBlocks column = reading := by
  have none : reading.indents.takeWhile (column < ·) = [] := by
    cases indents : reading.indents with
    | nil => rfl
    | cons indent rest =>
        rw [indents, List.forall_mem_cons] at inside
        simp [inside.1]
  unfold closeBlocks
  split
  · rfl
  · simp [none]

/-! ## Gaps -/

private theorem skipGap_token {c : Char} (begins : BeginsToken c) (flow keyAllowed : Bool)
    (mark : Mark) (rest : List Char) :
    skipGap flow keyAllowed false mark (c :: rest) = (⟨c :: rest, mark⟩, keyAllowed) := by
  obtain ⟨noBlank, noBreak, noSign, noMark⟩ := begins
  have noSpace := isBlank_eq_false_iff.mp noBlank
  simp [skipGap, noBreak, noSign, noSpace, noMark]

private theorem skipGap_space {c : Char} (begins : BeginsToken c) (flow keyAllowed : Bool)
    (mark : Mark) (rest : List Char) :
    skipGap flow keyAllowed false mark (' ' :: c :: rest) =
      (⟨c :: rest, mark.after ' '⟩, keyAllowed) := by
  rw [← skipGap_token begins flow]
  rfl

/-- A reading at the beginning of a line, with no key left over. -/
def atLine (rest : List Char) (mark : Mark) (indents : List Nat) (tokens : List Token) :
    Reading where
  cursor := ⟨rest, mark⟩
  indents
  tokens
  count := tokens.length

/-- A reading in a line of a mapping at the text's left edge, with no key left over. -/
def inLine (rest : List Char) (mark : Mark) (keyAllowed : Bool) (tokens : List Token) :
    Reading where
  cursor := ⟨rest, mark⟩
  indents := [0]
  keyAllowed
  tokens
  count := tokens.length

/-- The end of the text may follow a line. -/
theorem startsLine_nil : StartsLine [] := by
  rintro c ⟨⟩

/-- There is no gap in front of what starts a line. -/
theorem skipGap_line {rest : List Char} (starts : StartsLine rest) (flow keyAllowed : Bool)
    (mark : Mark) : skipGap flow keyAllowed false mark rest = (⟨rest, mark⟩, keyAllowed) := by
  cases rest with
  | nil => rfl
  | cons c rest => exact skipGap_token (starts c rfl) flow keyAllowed mark rest

private theorem atLine_settled {rest : List Char} (starts : StartsLine rest) (mark : Mark)
    (indents : List Nat) (tokens : List Token) :
    (atLine rest mark indents tokens).toToken.dropStaleKeys =
      some (atLine rest mark indents tokens) := by
  have same : (atLine rest mark indents tokens).toToken = atLine rest mark indents tokens := by
    have gap := skipGap_line starts false true mark
    simp only [toToken, atLine, inFlow, List.isEmpty_nil, Bool.not_true, gap]
  rw [same]
  rfl

/-- A reading whose gap ends at the beginning of a line leads there if no key is waiting that could
not be given up. -/
theorem leads_atLine {cursor : Cursor} {key : Option PossibleKey} {keyAllowed : Bool}
    {tokens : List Token} {rest : List Char} {mark : Mark} (starts : StartsLine rest)
    (gap : skipGap false keyAllowed false cursor.mark cursor.rest = (⟨rest, mark⟩, true))
    (stale : ∀ saved ∈ key, saved.required = false ∧ saved.mark.line < mark.line)
    (shorter : rest.length ≤ cursor.rest.length) :
    Leads ⟨cursor, [0], key, [], keyAllowed, tokens, tokens.length⟩
      (atLine rest mark [0] tokens) := by
  refine leads_of_gap ?_ (atLine_settled starts mark [0] tokens) shorter
  have moved : toToken ⟨cursor, [0], key, [], keyAllowed, tokens, tokens.length⟩ =
      ⟨⟨rest, mark⟩, [0], key, [], true, tokens, tokens.length⟩ := by
    simp only [toToken, inFlow, List.isEmpty_nil, Bool.not_true]
    rw [gap]
  rw [moved]
  cases key with
  | none => rfl
  | some key =>
      obtain ⟨free, above⟩ := stale key rfl
      simp [dropStaleKeys, PossibleKey.isStale, free, above, atLine]

/-! ## Texts -/

/-- The key that may begin at a place in a line, if one may. -/
def savedKey (keyAllowed : Bool) (before : Nat) (mark : Mark) : Option PossibleKey :=
  if keyAllowed then some ⟨before, mark, false⟩ else none

section Texts

variable {rest : List Char} {mark : Mark} {keyAllowed : Bool} {tokens : List Token}

private theorem saveKey_inLine (right : 0 < mark.column) (rest : List Char) (keyAllowed : Bool)
    (tokens : List Token) :
    (inLine rest mark keyAllowed tokens).saveKey =
      some { inLine rest mark keyAllowed tokens with
        key := savedKey keyAllowed tokens.length mark } := by
  have apart : (0 = mark.column) = False := eq_false (Nat.ne_of_lt right)
  cases keyAllowed <;> simp [inLine, saveKey, savedKey, inFlow, apart]

/-- In a line a space leads to the token behind it. -/
theorem inLine_settled {c : Char} (begins : BeginsToken c) (rest : List Char) (mark : Mark)
    (keyAllowed : Bool) (tokens : List Token) :
    (inLine (' ' :: c :: rest) mark keyAllowed tokens).toToken.dropStaleKeys =
      some (inLine (c :: rest) (mark.after ' ') keyAllowed tokens) := by
  have moved : (inLine (' ' :: c :: rest) mark keyAllowed tokens).toToken =
      inLine (c :: rest) (mark.after ' ') keyAllowed tokens := by
    simp only [toToken, inLine, inFlow, List.isEmpty_nil, Bool.not_true]
    rw [skipGap_space begins]
  rw [moved]
  rfl

private theorem savedKey_waits {before : Nat} {saved : PossibleKey}
    (isSaved : saved ∈ savedKey keyAllowed before mark) :
    saved.required = false ∧ saved.mark = mark := by
  unfold savedKey at isSaved
  split at isSaved
  · cases isSaved
    exact ⟨rfl, rfl⟩
  · cases isSaved

/-- A token in a line, behind a space, leads to the next line if what is left of its own is a gap
and the key that may have begun with it ends with the line. -/
theorem leads_of_inLine {c : Char} {written : List Char} {token : Token} {cursor : Cursor}
    {key : Option PossibleKey} {allowed : Bool} (begins : BeginsToken c) (starts : StartsLine rest)
    (read : (inLine (c :: written ++ rest) (mark.after ' ') keyAllowed tokens).readToken c
        (written ++ rest) =
      some ⟨cursor, [0], key, [], allowed, token :: tokens, tokens.length + 1⟩)
    (waits : ∀ saved ∈ key, saved.required = false ∧ saved.mark = mark.after ' ')
    (gap : skipGap false allowed false cursor.mark cursor.rest =
      (⟨rest, mark.past (' ' :: c :: written)⟩, true))
    (shorter : cursor.rest.length ≤ (written ++ rest).length)
    (longer : rest.length ≤ cursor.rest.length)
    (line : (mark.after ' ').line < (mark.past (' ' :: c :: written)).line) :
    Leads (inLine (' ' :: c :: written ++ rest) mark keyAllowed tokens)
      (atLine rest (mark.past (' ' :: c :: written)) [0] (token :: tokens)) := by
  have same : ∀ column, (inLine (c :: written ++ rest) (mark.after ' ') keyAllowed
      tokens).closeBlocks column =
        inLine (c :: written ++ rest) (mark.after ' ') keyAllowed tokens :=
    fun column => closeBlocks_eq_self (by simp [inLine])
  have token := leads_of_token (inLine_settled begins (written ++ rest) mark keyAllowed tokens) rfl
    ((congrArg (readToken · c (written ++ rest)) (same _)).trans read)
    (by simp [inLine] at shorter ⊢; omega)
  refine token.trans (leads_atLine starts gap (fun saved isSaved => ?_) longer)
  obtain ⟨free, here⟩ := waits saved isSaved
  rw [here]
  exact ⟨free, line⟩

private theorem readToken_single {reading : Reading} (right : 0 < reading.cursor.mark.column)
    (rest : List Char) : reading.readToken '\'' rest =
      reading.readQuotedScalar fun mark => readSingleQuoted mark [] {} false := by
  simp [readToken, atDocumentMarker_eq_false right]

private theorem readToken_double {reading : Reading} (right : 0 < reading.cursor.mark.column)
    (rest : List Char) : reading.readToken '"' rest =
      reading.readQuotedScalar fun mark => readDoubleQuoted mark [] {} .outside := by
  simp [readToken, atDocumentMarker_eq_false right]

private theorem readToken_literal {reading : Reading} (right : 0 < reading.cursor.mark.column)
    (block : reading.inFlow = false) (rest : List Char) :
    reading.readToken '|' rest = reading.readBlockScalar true := by
  simp [readToken, atDocumentMarker_eq_false right, block]

/-- A plain scalar begins with a character that is no indicator there. -/
theorem readToken_plain {reading : Reading} {c : Char} {rest : List Char}
    (noDirective : ¬ (reading.cursor.mark.column = 0 ∧ c = '%'))
    (noMarker : Cursor.atDocumentMarker reading.cursor.mark.column (c :: rest) = false)
    (block : reading.inFlow = false) (noBlank : isBlank c = false)
    (opens : if c = '-' ∨ c = '?' ∨ c = ':' then isGap rest.head? = false
      else isIndicator c = false) :
    reading.readToken c rest = reading.readPlainScalar := by
  have noDirectiveToo : (reading.cursor.mark.column = 0 && c = '%') = false := by
    simpa using noDirective
  by_cases special : c = '-' ∨ c = '?' ∨ c = ':'
  · rw [if_pos special] at opens
    have joined : rest.head?.any isBlank = false := by
      cases next : rest.head? with
      | none => rfl
      | some next =>
          simp_all [isGap]
    rcases special with rfl | rfl | rfl <;>
      simp [readToken, noMarker, block, opens, joined]
  · have indicator := opens
    rw [if_neg special] at indicator opens
    simp only [isIndicator, isFlowIndicator, Bool.or_eq_false_iff, decide_eq_false_iff_not] at opens
    simp only [readToken, noMarker, noDirectiveToo, block, noBlank, indicator]
    simp [opens]

/-- In a line, a text in quotes is read up to the next line. -/
theorem leads_quoted {c : Char} {body text : List Char}
    {read : Mark → List Char → Option (List Char × Cursor)} (begins : BeginsToken c)
    (starts : StartsLine rest)
    (dispatch : ∀ {reading : Reading}, 0 < reading.cursor.mark.column →
      ∀ rest, reading.readToken c rest = reading.readQuotedScalar read)
    (isRead : ∀ {mark : Mark}, 0 < mark.column →
      read mark (body ++ '\n' :: rest) = some (text, ⟨'\n' :: rest, mark.past body⟩)) :
    Leads (inLine (' ' :: c :: (body ++ ['\n']) ++ rest) mark keyAllowed tokens)
      (atLine rest (mark.past (' ' :: c :: (body ++ ['\n']))) [0]
        (.scalar text .quoted :: tokens)) := by
  have column : 0 < (mark.after ' ').column := mark.column_after_pos rfl
  have columnToo : 0 < ((mark.after ' ').after c).column := Mark.column_after_pos begins.2.1 _
  have read : (inLine (c :: (body ++ ['\n']) ++ rest) (mark.after ' ') keyAllowed tokens).readToken
      c (body ++ ['\n'] ++ rest) =
      some ⟨⟨'\n' :: rest, (mark.after ' ').past (c :: body)⟩, [0],
        savedKey keyAllowed tokens.length (mark.after ' '), [], false,
        .scalar text .quoted :: tokens, tokens.length + 1⟩ := by
    rw [dispatch column, readQuotedScalar, readPart, saveKey_inLine column]
    simp [inLine, Cursor.skip, isRead columnToo, push]
  refine leads_of_inLine begins starts read (fun _ => savedKey_waits) ?_ (by simp) (by simp)
    ((mark.after ' ').past_newline (c :: body)).2
  have newline : skipGap false false false ((mark.after ' ').past (c :: body)) ('\n' :: rest) =
      skipGap false true false (((mark.after ' ').past (c :: body)).after '\n') rest := rfl
  rw [newline, skipGap_line starts]
  simp [Mark.past_append]

/-- A plain text begins with a character that is no indicator there, whatever follows the text. -/
theorem beginsToken_of_isPlain {first : Char} {more : List Char} (plain : IsPlain (first :: more))
    (ending : List Char) :
    BeginsToken first ∧ if first = '-' ∨ first = '?' ∨ first = ':' then
      isGap (more ++ ending).head? = false else isIndicator first = false := by
  obtain ⟨_, _, same, noSpace, opens, -⟩ := plain.quiet
  cases same
  obtain ⟨printable, inline⟩ := plain.inline first List.mem_cons_self
  have noBlank : isBlank first = false := isBlank_eq_false_of_printable printable noSpace
  have noSign : first ≠ '#' := by
    rintro rfl
    cases opens
  have noMark : first ≠ byteOrderMark := by
    rintro rfl
    cases printable
  refine ⟨⟨noBlank, isBreak_of_endsLine inline, noSign, noMark⟩, ?_⟩
  unfold opensIndicator at opens
  by_cases special : first = '-' ∨ first = '?' ∨ first = ':'
  · rw [if_pos special]
    rw [if_pos (by simpa [or_assoc] using special)] at opens
    cases more with
    | nil => cases opens
    | cons next more =>
        simp_all [separates, isGap, endsLine]
  · rw [if_neg special]
    rwa [if_neg (by simpa [or_assoc] using special)] at opens

/-- A plain scalar behind a key is read to itself. -/
theorem leads_plain {text : List Char} (plain : IsPlain text) (starts : StartsLine rest) :
    Leads (inLine (' ' :: (text ++ ['\n']) ++ rest) mark keyAllowed tokens)
      (atLine rest (mark.past (' ' :: (text ++ ['\n']))) [0] (.scalar text .plain :: tokens)) := by
  obtain ⟨first, more, rfl, -⟩ := plain.quiet
  obtain ⟨begins, opens⟩ := beginsToken_of_isPlain plain ('\n' :: rest)
  have column : 0 < (mark.after ' ').column := mark.column_after_pos rfl
  have read : (inLine (first :: (more ++ ['\n']) ++ rest) (mark.after ' ') keyAllowed
      tokens).readToken first (more ++ ['\n'] ++ rest) =
      some ⟨⟨rest, (mark.after ' ').past (first :: more ++ ['\n'])⟩, [0],
        savedKey keyAllowed tokens.length (mark.after ' '), [], true,
        .scalar (first :: more) .plain :: tokens, tokens.length + 1⟩ := by
    have line := readPlain_line plain (Nat.lt_succ_self 0) column starts
    have noDirective : ¬ ((mark.after ' ').column = 0 ∧ first = '%') :=
      fun directive => Nat.ne_of_gt column directive.1
    rw [List.append_assoc, List.singleton_append, readToken_plain noDirective
      (atDocumentMarker_eq_false column _) rfl begins.1 opens, readPlainScalar,
      saveKey_inLine column]
    change (readPlain false 1 (mark.after ' ') [] {} (first :: (more ++ ['\n']) ++ rest)).bind _ = _
    rw [List.cons_append, List.append_assoc, List.singleton_append, ← List.cons_append, line]
    rfl
  have line := ((mark.after ' ').past_newline (first :: more)).2
  exact leads_of_inLine begins starts read (fun _ => savedKey_waits) (skipGap_line starts _ _ _)
    (by simp; omega) (Nat.le_refl _) line

private theorem skipLineEnd?_newline (rest : List Char) (mark : Mark) :
    (⟨'\n' :: rest, mark⟩ : Cursor).skipLineEnd? = some ⟨rest, mark.after '\n'⟩ :=
  rfl

/-- Where the lines of a block begin. -/
def behindHeader (text : List Char) (mark : Mark) : Mark :=
  mark.past ('|' :: (headerOf text ++ ['\n']))

private theorem past_writeBlock (text : List Char) (mark : Mark) :
    mark.past (writeBlock text) =
      (behindHeader text mark).past (indentLines true (closedLines text)) := by
  rw [writeBlock_eq, behindHeader, ← Mark.past_append]
  simp

/-- A written block is read to its text. -/
theorem readBlockScalar_written {text : List Char} (filled : text ≠ [])
    (printable : ∀ c ∈ text, isPrintable c = true) (starts : StartsLine rest) :
    (inLine (writeBlock text ++ rest) mark keyAllowed tokens).readBlockScalar true =
      some ⟨⟨rest, mark.past (writeBlock text)⟩, [0], none, [], true,
        .scalar text .block :: tokens, tokens.length + 1⟩ := by
  have place : (behindHeader text mark).column = 0 :=
    (mark.past_newline ('|' :: headerOf text)).1
  obtain ⟨block, isRead, chomped⟩ := readBlock_written filled printable place starts
  rw [past_writeBlock, writeBlock_eq]
  generalize indentLines true (closedLines text) = lines at isRead ⊢
  have first : (inLine ('|' :: (headerOf text ++ '\n' :: lines) ++ rest) mark keyAllowed
      tokens).cursor.skip 1 = ⟨headerOf text ++ '\n' :: (lines ++ rest), mark.after '|'⟩ := by
    simp [inLine, Cursor.skip]
  have header : blockHeader? (headerOf text ++ '\n' :: (lines ++ rest)) =
      some (⟨chompingOf text, if hidesDepth text then some 2 else none⟩, (headerOf text).length) :=
    blockHeader?_written (hidesDepth text) (chompingOf text) (lines ++ rest)
  have told : (if hidesDepth text then some 2 else none).map (fun depth => 1 - 1 + depth) =
      if hidesDepth text then some 2 else none := by
    cases hidesDepth text <;> rfl
  have start : ((mark.after '|').past (headerOf text)).after '\n' = behindHeader text mark := by
    simp [behindHeader, Mark.past_append]
  have least : (inLine ('|' :: (headerOf text ++ '\n' :: lines) ++ rest) mark keyAllowed
      tokens).innerColumn = 1 := rfl
  have kept : (inLine ('|' :: (headerOf text ++ '\n' :: lines) ++ rest) mark keyAllowed
      tokens).dropKey = some (inLine ('|' :: (headerOf text ++ '\n' :: lines) ++ rest) mark
        keyAllowed tokens) := rfl
  rw [readBlockScalar, kept]
  simp only [Option.bind_eq_bind, Option.bind_some, first, header, Cursor.skip_length,
    skipLineEnd?_newline, start, least, told, isRead, chomped]
  rfl

/-- A block behind a key is read to its text. -/
theorem leads_block {text : List Char} (filled : text ≠ [])
    (printable : ∀ c ∈ text, isPrintable c = true) (starts : StartsLine rest) :
    Leads (inLine (' ' :: writeBlock text ++ rest) mark keyAllowed tokens)
      (atLine rest (mark.past (' ' :: writeBlock text)) [0] (.scalar text .block :: tokens)) := by
  have column : 0 < (mark.after ' ').column := mark.column_after_pos rfl
  have line : (mark.after ' ').line < (mark.past (' ' :: writeBlock text)).line := by
    rw [Mark.past_cons, past_writeBlock]
    exact Nat.lt_of_lt_of_le ((mark.after ' ').past_newline ('|' :: headerOf text)).2
      (Mark.line_le_past _ _)
  have read : (inLine (writeBlock text ++ rest) (mark.after ' ') keyAllowed tokens).readBlockScalar
      true = some ⟨⟨rest, (mark.after ' ').past (writeBlock text)⟩, [0], none, [], true,
        .scalar text .block :: tokens, tokens.length + 1⟩ :=
    readBlockScalar_written filled printable starts
  obtain ⟨written, same⟩ : ∃ written, writeBlock text = '|' :: written := ⟨_, writeBlock_eq text⟩
  rw [same] at line read ⊢
  have dispatched := (readToken_literal column rfl (written ++ rest)).trans read
  exact leads_of_inLine (by decide) starts dispatched nofun (skipGap_line starts _ _ _) (by simp)
    (Nat.le_refl _) line

/-- In a line, a text is read in whatever form it is written in. -/
theorem leads_text (text : List Char) (starts : StartsLine rest) :
    Leads (inLine (' ' :: writeText text ++ rest) mark keyAllowed tokens)
      (atLine rest (mark.past (' ' :: writeText text)) [0]
        (.scalar text (scalarFormOf text) :: tokens)) := by
  have form := textForm_cases text
  unfold writeText scalarFormOf
  cases isForm : TextForm.of text with
  | plain =>
      exact leads_plain (isPlain_of_textForm isForm) starts
  | single =>
      rw [isForm] at form
      have isRead : ∀ {mark : Mark}, 0 < mark.column →
          readSingleQuoted mark [] {} false (singleLines false text ++ '\n' :: rest) =
            some (text, ⟨'\n' :: rest, mark.past (singleLines false text)⟩) :=
        fun right => readSingleQuoted_written form.2 form.1 right (by simp)
      simp only [writeSingle_eq]
      exact leads_quoted (by decide) starts readToken_single isRead
  | double =>
      have isRead : ∀ {mark : Mark}, 0 < mark.column →
          readDoubleQuoted mark [] {} .outside
            (text.flatMap writeEscaped ++ ['"'] ++ '\n' :: rest) =
            some (text, ⟨'\n' :: rest, mark.past (text.flatMap writeEscaped ++ ['"'])⟩) := by
        intro mark right
        rw [List.append_assoc]
        exact readDoubleQuoted_text text right [] [] ('\n' :: rest)
      exact leads_quoted (by decide) starts readToken_double isRead
  | block =>
      rw [isForm] at form
      exact leads_block form.1 form.2 starts

end Texts

/-! ## Keys, dashes and brackets -/

/-- A word that can be written as a key at the beginning of a line. -/
structure IsKey (name : List Char) : Prop where
  filled : name ≠ []
  word : ∀ c ∈ name, IsWordChar c
  short : (name.map Char.utf8Size).sum ≤ 1024

/-- A short word is a key. -/
theorem IsKey.of_all {name : List Char} (filled : name ≠ [])
    (word : (name.all fun c => decide (IsWordChar c)) = true)
    (short : (name.map Char.utf8Size).sum ≤ 1024) : IsKey name :=
  ⟨filled, fun c inside => of_decide_eq_true (List.all_eq_true.mp word c inside), short⟩

/-- A key can be written as a plain scalar. -/
theorem IsKey.plain {name : List Char} (isKey : IsKey name) : IsPlain name :=
  isPlain_of_word isKey.filled isKey.word

/-- A key starts a line. -/
theorem IsKey.startsLine {name : List Char} (isKey : IsKey name) (rest : List Char) :
    StartsLine (name ++ rest) := by
  obtain ⟨first, more, rfl⟩ := List.exists_cons_of_ne_nil isKey.filled
  rintro c ⟨⟩
  exact (beginsToken_of_isPlain isKey.plain []).1

/-- The tokens with the beginning of a mapping, unless one is open. -/
def opened (indents : List Nat) (tokens : List Token) : List Token :=
  if indents = [] then .blockMappingStart :: tokens else tokens

section Keys

variable {name rest : List Char} {mark : Mark} {indents : List Nat} {tokens : List Token}

/-- A reading behind a word that may turn out to be a key. -/
def behindName (name rest : List Char) (mark : Mark) (indents : List Nat) (tokens : List Token) :
    Reading where
  cursor := ⟨':' :: rest, mark.past name⟩
  indents
  key := some ⟨tokens.length, mark, indents.head? = some 0⟩
  keyAllowed := false
  tokens := .scalar name .plain :: tokens
  count := tokens.length + 1

/-- A word at the start of a line is read, and may turn out to be a key. -/
theorem leads_name (isKey : IsKey name) (place : mark.column = 0)
    (known : indents = [] ∨ indents = [0]) (gap : isGap rest.head? = true) :
    Leads (atLine (name ++ ':' :: rest) mark indents tokens)
      (behindName name rest mark indents tokens) := by
  have starts := isKey.startsLine (':' :: rest)
  have noSpace : ' ' ∉ name := fun inside => absurd (isKey.word ' ' inside) (by decide)
  obtain ⟨first, more, rfl⟩ := List.exists_cons_of_ne_nil isKey.filled
  obtain ⟨begins, opens⟩ := beginsToken_of_isPlain isKey.plain (':' :: rest)
  have isFirst : IsWordChar first := isKey.word first List.mem_cons_self
  have noDirective : first ≠ '%' := isFirst.ne (by decide)
  have noDash : first ≠ '-' := isFirst.2
  have noDot : first ≠ '.' := isFirst.ne (by decide)
  have inside : ∀ indent ∈ indents, indent ≤ mark.column := by
    rcases known with rfl | rfl <;> simp
  have noMarker : Cursor.atDocumentMarker mark.column (first :: (more ++ ':' :: rest)) = false := by
    unfold Cursor.atDocumentMarker
    split
    next same =>
      cases (List.cons.inj same).1
      simp [noDash, noDot]
    · rfl
  have read : (atLine (first :: more ++ ':' :: rest) mark indents tokens).readToken first
      (more ++ ':' :: rest) = some (behindName (first :: more) rest mark indents tokens) := by
    have found := readPlain_key isKey.plain noSpace
      (atLine (first :: more ++ ':' :: rest) mark indents tokens).innerColumn mark gap
    rw [readToken_plain (fun directive => noDirective directive.2) noMarker rfl begins.1 opens,
      readPlainScalar]
    change (readPlain false (atLine (first :: more ++ ':' :: rest) mark indents tokens).innerColumn
      mark [] {} (first :: more ++ ':' :: rest)).bind _ = _
    rw [found]
    simp [atLine, behindName, push, inFlow, place]
  refine leads_of_token (atLine_settled starts mark indents tokens) rfl ?_ ?_
  · rw [closeBlocks_eq_self inside]
    exact read
  · simp only [atLine, behindName, List.length_append, List.length_cons]
    omega

/-- A word at the beginning of a line is short enough for the colon behind it to make it a key. -/
theorem behindName_settled (isKey : IsKey name) (rest : List Char) (mark : Mark)
    (indents : List Nat) (tokens : List Token) :
    (behindName name rest mark indents tokens).toToken.dropStaleKeys =
      some (behindName name rest mark indents tokens) := by
  have moved : (behindName name rest mark indents tokens).toToken =
      behindName name rest mark indents tokens := by
    have gap := skipGap_token (c := ':') (by decide) false false (mark.past name) rest
    simp only [toToken, behindName, inFlow, List.isEmpty_nil, Bool.not_true]
    rw [gap]
  have line : (mark.past name).line = mark.line :=
    Mark.line_past (fun c inside => isBreak_of_endsLine (isKey.plain.inline c inside).2) mark
  have index : ¬ mark.index + 1024 < (mark.past name).index := by
    have short := isKey.short
    rw [Mark.index_past]
    omega
  rw [moved]
  simp [dropStaleKeys, behindName, PossibleKey.isStale, line, index]

private theorem readColon_behindName (known : indents = [] ∨ indents = [0])
    (place : mark.column = 0) :
    (behindName name rest mark indents tokens).readColon =
      some (inLine rest ((mark.past name).after ':') false
        (.value :: .scalar name .plain :: .key :: opened indents tokens)) := by
  have two : tokens.length + 1 + 1 - tokens.length = 2 := by omega
  rcases known with rfl | rfl
  · simp [readColon, behindName, insert, openBlock, inFlow, innerColumn, place, push, skip,
      Cursor.skip, inLine, opened, two]
  · simp [readColon, behindName, insert, openBlock, inFlow, innerColumn, place, push, skip,
      Cursor.skip, inLine, opened]

/-- A key is read with the colon behind it. -/
theorem leads_key (isKey : IsKey name) (place : mark.column = 0)
    (known : indents = [] ∨ indents = [0]) (gap : isGap rest.head? = true) :
    Leads (atLine (name ++ ':' :: rest) mark indents tokens)
      (inLine rest ((mark.past name).after ':') false
        (.value :: .scalar name .plain :: .key :: opened indents tokens)) := by
  refine (leads_name isKey place known gap).trans ?_
  refine leads_of_token (behindName_settled isKey rest mark indents tokens) rfl ?_ ?_
  · have inside : ∀ indent ∈ indents, indent ≤ (mark.past name).column := by
      rcases known with rfl | rfl <;> simp
    have right : 0 < (mark.past name).column := by
      have long := List.length_pos_iff.mpr isKey.filled
      rw [Mark.column_past fun c member => isBreak_of_endsLine (isKey.plain.inline c member).2]
      omega
    rw [closeBlocks_eq_self inside, ← readColon_behindName known place]
    simp [readToken, behindName, atDocumentMarker_eq_false right, gap]
  · simp [behindName, inLine]

/-- A dash at the beginning of a line is read as one of the mapping's lines. -/
theorem leads_dash (place : mark.column = 0) (rest : List Char) (tokens : List Token) :
    Leads (atLine ('-' :: ' ' :: rest) mark [0] tokens)
      (inLine (' ' :: rest) (mark.after '-') true (.blockEntry :: tokens)) := by
  have starts : StartsLine ('-' :: ' ' :: rest) := by
    rintro c ⟨⟩
    decide
  have noMarker : Cursor.atDocumentMarker 0 ('-' :: ' ' :: rest) = false := by
    cases rest <;> simp [Cursor.atDocumentMarker]
  refine leads_of_token (atLine_settled starts mark [0] tokens) rfl ?_ ?_
  · rw [closeBlocks_eq_self (by simp [atLine])]
    simp [readToken, atLine, place, noMarker, readDash, openBlock, inFlow, innerColumn, dropKey,
      push, skip, Cursor.skip, inLine, isGap, isBlank]
  · simp [atLine, inLine]

/-- A reading between two brackets behind a key. -/
def inBrackets (rest : List Char) (mark : Mark) (tokens : List Token) : Reading where
  cursor := ⟨']' :: rest, mark⟩
  indents := [0]
  outerKeys := [none]
  tokens := .flowSequenceStart :: tokens
  count := tokens.length + 1

private theorem inBrackets_settled (rest : List Char) (mark : Mark) (tokens : List Token) :
    (inBrackets rest mark tokens).toToken.dropStaleKeys = some (inBrackets rest mark tokens) := by
  have moved : (inBrackets rest mark tokens).toToken = inBrackets rest mark tokens := by
    have begins : BeginsToken ']' := by decide
    simp only [toToken, inBrackets, inFlow, List.isEmpty_cons, Bool.not_false]
    rw [skipGap_token begins]
  rw [moved]
  rfl

/-- An empty pair of brackets behind a key is read up to the next line. -/
theorem leads_brackets (starts : StartsLine rest) (mark : Mark) (tokens : List Token) :
    Leads (inLine (' ' :: '[' :: ']' :: '\n' :: rest) mark false tokens)
      (atLine rest (mark.past [' ', '[', ']', '\n']) [0]
        (.flowSequenceEnd :: .flowSequenceStart :: tokens)) := by
  have column : 0 < (mark.after ' ').column := mark.column_after_pos rfl
  have columnToo : 0 < ((mark.after ' ').after '[').column := Mark.column_after_pos rfl _
  have first : Leads (inLine (' ' :: '[' :: ']' :: '\n' :: rest) mark false tokens)
      (inBrackets ('\n' :: rest) ((mark.after ' ').after '[') tokens) := by
    refine leads_of_token (inLine_settled (by decide) _ mark false tokens) rfl ?_ ?_
    · rw [closeBlocks_eq_self (by simp [inLine])]
      simp [readToken, inLine, atDocumentMarker_eq_false column, openFlow, saveKey, push, skip,
        Cursor.skip, inBrackets]
    · simp [inLine, inBrackets]
  have second : Leads (inBrackets ('\n' :: rest) ((mark.after ' ').after '[') tokens)
      ⟨⟨'\n' :: rest, ((mark.after ' ').after '[').after ']'⟩, [0], none, [], false,
        .flowSequenceEnd :: .flowSequenceStart :: tokens, tokens.length + 2⟩ := by
    refine leads_of_token (inBrackets_settled _ _ tokens) rfl ?_ ?_
    · rw [closeBlocks_eq_self (by simp [inBrackets])]
      simp [readToken, inBrackets, atDocumentMarker_eq_false columnToo, closeFlow, dropKey, push,
        skip, Cursor.skip]
    · simp [inBrackets]
  refine first.trans (second.trans (leads_atLine starts ?_ nofun (by simp)))
  exact skipGap_line starts false true _

/-- At its end a text with a mapping ends, and the mapping with it. -/
theorem run_atLine_nil (mark : Mark) (tokens : List Token) (fuel : Nat) :
    run (fuel + 1) (atLine [] mark [0] tokens) =
      some (tokens.reverse ++ [.blockEnd, .streamEnd]) := by
  rw [run, atLine_settled startsLine_nil]
  simp [atLine, closeAllBlocks, inFlow, dropKey, push]

end Keys

end Reading

end FlowCheck.Yaml
