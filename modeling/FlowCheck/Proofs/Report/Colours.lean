import FlowCheck.Proofs.Report.Underline

/-! # Colours only add escape sequences

A report in colours is the plain report with style sequences around some of its pieces. No piece
goes beyond its line, and each is followed by the sequence that ends all styles. So a reader who
skips the sequences reads the plain report, and at the end of every line no style is left on.
-/

namespace FlowCheck

/-! ## Style sequences -/

/-- The sequence that sets a style: an escape character, a bracket, digits, and the letter m. -/
def styleSequence (digits : List Char) : List Char :=
  '\x1b' :: '[' :: (digits ++ ['m'])

/-- The length of the style sequence that a text begins with, or zero if it does not. -/
def sequenceLength : List Char → Nat
  | '\x1b' :: '[' :: rest =>
    let digits := rest.takeWhile Char.isDigit
    if digits ≠ [] ∧ rest[digits.length]? = some 'm' then digits.length + 3 else 0
  | _ => 0

/-- A text without its style sequences, behind so many characters that still belong to one. -/
def withoutStylesBehind : Nat → List Char → List Char
  | _, [] => []
  | skipped + 1, _ :: rest => withoutStylesBehind skipped rest
  | 0, c :: rest =>
    match sequenceLength (c :: rest) with
    | 0 => c :: withoutStylesBehind 0 rest
    | skipped + 1 => withoutStylesBehind skipped rest

/-- A text without its style sequences. -/
def withoutStyles (text : List Char) : List Char :=
  withoutStylesBehind 0 text

/-- A text goes on to the sequence that ends all styles before its first line is over. -/
def Resets (text : List Char) : Prop :=
  ∃ inner rest, text = inner ++ escapeSequence 0 ++ rest ∧ '\n' ∉ inner

/-- Whatever style is set in a text is reset on the same line. -/
def ResetsAll (text : List Char) : Prop :=
  ∀ before digits after, text = before ++ styleSequence digits ++ after →
    (∀ c ∈ digits, c.isDigit = true) → digits ≠ ['0'] → Resets after

private theorem isDigit_of_mem_toDigits {code : Nat} :
    ∀ c ∈ Nat.toDigits 10 code, c.isDigit = true := by
  intro c inside
  exact Nat.isDigit_of_mem_toDigits (by decide) (by decide) inside

/-- What is behind the bracket of a sequence, up to its letter, are its digits. -/
theorem takeWhile_digits {digits : List Char} (all : ∀ c ∈ digits, c.isDigit = true)
    (rest : List Char) : (digits ++ ['m'] ++ rest).takeWhile Char.isDigit = digits := by
  rw [List.append_assoc, List.takeWhile_append_of_pos all]
  simp

private theorem newline_notMem_escapeSequence (code : Nat) : '\n' ∉ escapeSequence code := by
  have single := Report.newline_notMem_toDigits code
  simpa [escapeSequence] using single

/-! ## Reading without styles -/

section Reading

variable {text rest : List Char}

private theorem sequenceLength_of_ne {c : Char} (plain : c ≠ '\x1b') :
    sequenceLength (c :: rest) = 0 := by
  unfold sequenceLength
  split
  · next isEscape => exact (plain (List.cons.inj isEscape).1).elim
  · rfl

private theorem sequenceLength_escapeSequence (code : Nat) (rest : List Char) :
    sequenceLength (escapeSequence code ++ rest) = (escapeSequence code).length := by
  change sequenceLength ('\x1b' :: '[' :: ((Nat.toDigits 10 code ++ ['m']) ++ rest)) = _
  rw [sequenceLength, takeWhile_digits isDigit_of_mem_toDigits, if_pos]
  · simp [escapeSequence]
  · constructor
    · exact Nat.toDigits_ne_nil
    · simp

private theorem withoutStylesBehind_append (sequence : List Char) :
    withoutStylesBehind sequence.length (sequence ++ rest) = withoutStyles rest := by
  induction sequence with
  | nil => rfl
  | cons c sequence ih => exact ih

private theorem withoutStyles_escapeSequence (code : Nat) :
    withoutStyles (escapeSequence code ++ rest) = withoutStyles rest := by
  have length := sequenceLength_escapeSequence code rest
  obtain ⟨c, sequence, isSequence⟩ : ∃ c sequence, escapeSequence code = c :: sequence :=
    ⟨_, _, rfl⟩
  rw [isSequence, List.cons_append, List.length_cons] at length
  rw [isSequence, List.cons_append, withoutStyles, withoutStylesBehind, length]
  exact withoutStylesBehind_append sequence

private theorem withoutStyles_cons {c : Char} (plain : c ≠ '\x1b') :
    withoutStyles (c :: rest) = c :: withoutStyles rest := by
  rw [withoutStyles, withoutStylesBehind, sequenceLength_of_ne plain]
  rfl

/-- A text without escape characters is kept. -/
theorem withoutStyles_append (plain : '\x1b' ∉ text) :
    withoutStyles (text ++ rest) = text ++ withoutStyles rest := by
  induction text with
  | nil => rfl
  | cons c text ih =>
      rw [List.mem_cons, not_or] at plain
      rw [List.cons_append, withoutStyles_cons (Ne.symm plain.1), ih plain.2, List.cons_append]

/-! ## Resets -/

/-- The first escape character of a text is not in front of a part without any. -/
theorem exists_of_append_eq {before after : List Char} (plain : '\x1b' ∉ text)
    (same : text ++ rest = before ++ '\x1b' :: after) :
    ∃ between, before = text ++ between ∧ rest = between ++ '\x1b' :: after := by
  rcases List.append_eq_append_iff.mp same with
    ⟨between, isBefore, isRest⟩ | ⟨inner, isText, isRest⟩
  · exact ⟨between, isBefore, isRest⟩
  · cases inner with
    | nil => exact ⟨[], by simpa using isText.symm, isRest.symm⟩
    | cons c inner =>
        obtain ⟨rfl, -⟩ := List.cons.inj isRest
        exact (plain (isText ▸ List.mem_append_right _ List.mem_cons_self)).elim

private theorem ResetsAll.append (plain : '\x1b' ∉ text) (resets : ResetsAll rest) :
    ResetsAll (text ++ rest) := by
  intro before digits after split
  rw [List.append_assoc] at split
  obtain ⟨between, -, isRest⟩ := exists_of_append_eq plain split
  apply resets between digits after
  rw [isRest, List.append_assoc]
  rfl

/-- A sequence at the beginning is the first one of a text, and the others are behind it. -/
theorem ResetsAll.sequence {code : Nat} (resets : ResetsAll rest)
    (reset : code = 0 ∨ Resets rest) : ResetsAll (escapeSequence code ++ rest) := by
  intro before digits after split all opens
  cases before with
  | nil =>
      have same : Nat.toDigits 10 code ++ ['m'] ++ rest = digits ++ ['m'] ++ after := by
        simpa [escapeSequence, styleSequence] using split
      have isDigits : Nat.toDigits 10 code = digits := by
        rw [← takeWhile_digits isDigit_of_mem_toDigits rest, same, takeWhile_digits all]
      rw [isDigits] at same
      obtain rfl : rest = after := List.append_cancel_left same
      rcases reset with rfl | reset
      · exact (opens isDigits.symm).elim
      · exact reset
  | cons c before =>
      have plain : '\x1b' ∉ '[' :: (Nat.toDigits 10 code ++ ['m']) := by
        intro inside
        have inDigits : '\x1b' ∈ Nat.toDigits 10 code := by simpa using inside
        cases isDigit_of_mem_toDigits _ inDigits
      have behind : '[' :: (Nat.toDigits 10 code ++ ['m']) ++ rest =
          before ++ '\x1b' :: ('[' :: (digits ++ ['m']) ++ after) := by
        simpa [escapeSequence, styleSequence] using (List.cons.inj split).2
      obtain ⟨between, -, isRest⟩ := exists_of_append_eq plain behind
      apply resets between digits after _ all opens
      rw [isRest, List.append_assoc]
      rfl

end Reading

/-! ## Reports with styles added -/

/-- A text is another one in which pieces of lines have been given styles. -/
inductive AddsStyles : List Char → List Char → Prop
  | nothing : AddsStyles [] []
  | character {c : Char} {coloured plain : List Char} : c ≠ '\x1b' → AddsStyles coloured plain →
      AddsStyles (c :: coloured) (c :: plain)
  | piece (codes : List Nat) {text coloured plain : List Char} : '\x1b' ∉ text → '\n' ∉ text →
      AddsStyles coloured plain →
        AddsStyles (codes.flatMap escapeSequence ++ (text ++ (escapeSequence 0 ++ coloured)))
          (text ++ plain)

namespace AddsStyles

variable {coloured plain moreColoured morePlain text : List Char}

/-- A text to which styles are added has no escape characters of its own. -/
theorem escape_notMem (adds : AddsStyles coloured plain) : '\x1b' ∉ plain := by
  induction adds with
  | nothing => exact List.not_mem_nil
  | character noEscape _ ih =>
      rw [List.mem_cons, not_or]
      exact ⟨Ne.symm noEscape, ih⟩
  | piece _ noEscape _ _ ih =>
      rw [List.mem_append, not_or]
      exact ⟨noEscape, ih⟩

/-- Without the styles, what remains is the text that they were added to. -/
theorem withoutStyles_eq (adds : AddsStyles coloured plain) : withoutStyles coloured = plain := by
  induction adds with
  | nothing => rfl
  | character noEscape _ ih => rw [withoutStyles_cons noEscape, ih]
  | piece codes noEscape _ _ ih =>
      induction codes with
      | nil =>
          rw [List.flatMap_nil, List.nil_append, withoutStyles_append noEscape,
            withoutStyles_escapeSequence, ih]
      | cons code codes more =>
          rw [List.flatMap_cons, List.append_assoc, withoutStyles_escapeSequence, more]

/-- Every style that was added is reset on its line. -/
theorem resetsAll (adds : AddsStyles coloured plain) : ResetsAll coloured := by
  induction adds with
  | nothing =>
      intro before digits after split
      simp [styleSequence] at split
  | @character c coloured _ noEscape _ ih =>
      have alone : '\x1b' ∉ [c] := by simpa using Ne.symm noEscape
      exact ih.append alone
  | @piece codes text coloured _ noEscape single _ ih =>
      have behind : ResetsAll (text ++ (escapeSequence 0 ++ coloured)) :=
        (ih.sequence (.inl rfl)).append noEscape
      -- The codes stand on the line of the text, so each of them is followed by its reset.
      have both : ResetsAll (codes.flatMap escapeSequence ++
          (text ++ (escapeSequence 0 ++ coloured))) ∧ '\n' ∉ codes.flatMap escapeSequence := by
        induction codes with
        | nil => exact ⟨behind, List.not_mem_nil⟩
        | cons code codes more =>
            obtain ⟨resets, onLine⟩ := more
            rw [List.flatMap_cons, List.append_assoc, List.mem_append, not_or]
            refine ⟨resets.sequence (.inr ?_), newline_notMem_escapeSequence code, onLine⟩
            refine ⟨codes.flatMap escapeSequence ++ text, coloured, by simp, ?_⟩
            rw [List.mem_append, not_or]
            exact ⟨onLine, single⟩
      exact both.1

/-- Styles may be added to the parts of a text. -/
theorem append (adds : AddsStyles coloured plain) (more : AddsStyles moreColoured morePlain) :
    AddsStyles (coloured ++ moreColoured) (plain ++ morePlain) := by
  induction adds with
  | nothing => exact more
  | character noEscape _ ih => exact .character noEscape ih
  | piece codes noEscape single _ ih =>
      simpa only [List.append_assoc] using AddsStyles.piece codes noEscape single ih

/-- No style needs to be added. -/
theorem unchanged (noEscape : '\x1b' ∉ text) : AddsStyles text text := by
  induction text with
  | nil => exact .nothing
  | cons c text ih =>
      rw [List.mem_cons, not_or] at noEscape
      exact .character (Ne.symm noEscape.1) (ih noEscape.2)

/-- Painting adds styles to a text on one line. -/
theorem painted (style : Style) (noEscape : '\x1b' ∉ text) (single : '\n' ∉ text) :
    AddsStyles (painted true style text) (FlowCheck.painted false style text) := by
  simp only [FlowCheck.painted, Style.paint, ↓reduceIte, Bool.false_eq_true]
  split
  · exact unchanged noEscape
  · simpa only [List.append_assoc, List.append_nil] using
      AddsStyles.piece style.codes noEscape single .nothing

/-- Styles may be added to each of many parts. -/
theorem flatMap {α : Type} {first second : α → List Char} {items : List α}
    (each : ∀ item ∈ items, AddsStyles (first item) (second item)) :
    AddsStyles (items.flatMap first) (items.flatMap second) := by
  induction items with
  | nil => exact .nothing
  | cons item items ih =>
      rw [List.flatMap_cons, List.flatMap_cons]
      apply append
      · exact each item List.mem_cons_self
      · apply ih
        intro other inside
        exact each other (List.mem_cons_of_mem _ inside)

end AddsStyles

namespace Report

variable {report : Report}

private theorem escape_notMem_toDigits (n : Nat) : '\x1b' ∉ Nat.toDigits 10 n := by
  intro inside
  cases isDigit_of_mem_toDigits _ inside

private theorem notMem_replicate {c other : Char} (differs : other ≠ c) (width : Nat) :
    other ∉ List.replicate width c := by
  intro inside
  exact differs (List.eq_of_mem_replicate inside)

private theorem escape_notMem_line {line : Nat} {text : List Char}
    (noEscape : '\x1b' ∉ report.document.chars) (found : report.document.line? line = some text) :
    '\x1b' ∉ trimReturns text := by
  intro inside
  obtain ⟨rest, cut, -⟩ := Document.exists_chars_eq found
  apply noEscape
  rw [cut]
  apply List.mem_append_right
  apply List.mem_append_left
  exact (Document.trimReturns_prefix text).subset inside

/-- The bars and the carets of a snippet have styles, and nothing else. -/
theorem snippet_addsStyles (noEscape : '\x1b' ∉ report.document.chars) (range : TextRange) :
    AddsStyles (report.snippet true range) (report.snippet false range) := by
  unfold snippet
  cases report.document.position? range.start with
  | none => exact .nothing
  | some position =>
      dsimp only
      cases found : report.document.line? position.line with
      | none => exact .nothing
      | some text =>
          let digits := Nat.toDigits 10 (position.line + 1)
          have gap : AddsStyles [' '] [' '] := .unchanged (by decide)
          have newline : AddsStyles ['\n'] ['\n'] := .unchanged (by decide)
          have blanks (width : Nat) : AddsStyles (List.replicate width ' ') _ :=
            .unchanged (notMem_replicate (by decide) width)
          have margin := blanks digits.length
          have number : AddsStyles digits digits := .unchanged (escape_notMem_toDigits _)
          have bar : AddsStyles (painted true .bar ['|']) _ := .painted _ (by decide) (by decide)
          have line := AddsStyles.unchanged (escape_notMem_line noEscape found)
          have carets (width : Nat) :
              AddsStyles (painted true .caret (List.replicate width '^')) _ :=
            .painted _ (notMem_replicate (by decide) width) (notMem_replicate (by decide) width)
          exact gap.append margin |>.append gap |>.append bar |>.append newline
            |>.append gap |>.append number |>.append gap |>.append bar |>.append gap
            |>.append line |>.append newline
            |>.append gap |>.append margin |>.append gap |>.append bar |>.append gap
            |>.append (blanks position.column) |>.append (carets _) |>.append newline

/-- What is said of a diagnostic has a style where its severity is named and in the snippet. -/
theorem entry_addsStyles {diagnostic : Diagnostic} (noEscape : '\x1b' ∉ report.document.chars)
    (file : '\x1b' ∉ report.file.toList) (message : '\x1b' ∉ diagnostic.message.toList) :
    AddsStyles (report.entry true diagnostic) (report.entry false diagnostic) := by
  have label : AddsStyles (painted true diagnostic.severity.style diagnostic.severity.name.toList)
      (painted false diagnostic.severity.style diagnostic.severity.name.toList) := by
    cases diagnostic.severity with
    | warning => exact .painted _ (by decide) (by decide)
    | error => exact .painted _ (by decide) (by decide)
  unfold entry
  refine (label.append (.unchanged ?_)).append (snippet_addsStyles noEscape _) |>.append
    (.unchanged (by decide))
  simp [ToString.toString, message, file, escape_notMem_toDigits]

/-- The line that counts the diagnostics has no style. -/
theorem escape_notMem_totals : '\x1b' ∉ report.totals := by
  unfold totals
  dsimp only
  split
  · simp [ToString.toString, escape_notMem_toDigits]
  · exact List.not_mem_nil

/-- A coloured report of some diagnostic has escape characters. -/
theorem escape_mem_human {diagnostic : Diagnostic} (member : diagnostic ∈ report.diagnostics) :
    '\x1b' ∈ (report.human true).toList := by
  have label : '\x1b' ∈
      painted true diagnostic.severity.style diagnostic.severity.name.toList := by
    cases diagnostic.severity <;> decide
  rw [human, String.toList_ofList]
  apply List.mem_append_left
  apply List.mem_flatMap.mpr
  refine ⟨diagnostic, member, ?_⟩
  unfold entry
  apply List.mem_append_left
  apply List.mem_append_left
  exact List.mem_append_left _ label

/-- A coloured report is the plain one with styles added. -/
theorem human_addsStyles (noEscape : '\x1b' ∉ report.document.chars)
    (file : '\x1b' ∉ report.file.toList)
    (messages : ∀ diagnostic ∈ report.diagnostics, '\x1b' ∉ diagnostic.message.toList) :
    AddsStyles (report.human true).toList (report.human false).toList := by
  rw [human, human, String.toList_ofList, String.toList_ofList]
  apply AddsStyles.append
  · apply AddsStyles.flatMap
    intro diagnostic member
    exact entry_addsStyles noEscape file (messages diagnostic member)
  · exact .unchanged escape_notMem_totals

/-- **Colours only add escape sequences.** Where file name, messages and text have no escape
character, the plain report has none either, and it is what remains of the report in colours without
its style sequences. Each of these is reset before its line ends. There are some as soon as there is
a diagnostic. -/
theorem colours_only_add {report : Report} (noEscape : '\x1b' ∉ report.document.chars)
    (file : '\x1b' ∉ report.file.toList)
    (messages : ∀ diagnostic ∈ report.diagnostics, '\x1b' ∉ diagnostic.message.toList) :
    let coloured := (report.human true).toList
    let plain := (report.human false).toList
    withoutStyles coloured = plain ∧ '\x1b' ∉ plain ∧ ResetsAll coloured ∧
      (report.diagnostics ≠ [] → coloured ≠ plain) := by
  intro coloured plain
  have adds := human_addsStyles noEscape file messages
  refine ⟨adds.withoutStyles_eq, adds.escape_notMem, adds.resetsAll, ?_⟩
  intro something same
  obtain ⟨diagnostic, member⟩ := List.exists_mem_of_ne_nil _ something
  have painted : '\x1b' ∈ coloured := escape_mem_human member
  rw [same] at painted
  exact adds.escape_notMem painted

/-- A message may have lines of its own, and so may the text. -/
theorem colours_only_add_over_lines :
    let report : Report := ⟨"a.js", { chars := ['é', '\r', '\n', 'a', 'b', '\n'] },
      [⟨⟨0, 4⟩, .warning, "two\nlines"⟩, ⟨⟨3, 5⟩, .error, "m"⟩]⟩
    '\x1b' ∉ report.document.chars ∧ '\x1b' ∉ report.file.toList ∧
      (∀ diagnostic ∈ report.diagnostics, '\x1b' ∉ diagnostic.message.toList) ∧
      withoutStyles (report.human true).toList = (report.human false).toList ∧
      ResetsAll (report.human true).toList ∧
      (report.human true).toList ≠ (report.human false).toList := by
  intro report
  have noEscape : '\x1b' ∉ report.document.chars := by decide
  have file : '\x1b' ∉ report.file.toList := by decide
  have messages : ∀ diagnostic ∈ report.diagnostics, '\x1b' ∉ diagnostic.message.toList := by decide
  obtain ⟨same, -, resets, differ⟩ := colours_only_add noEscape file messages
  exact ⟨noEscape, file, messages, same, resets, differ (by decide)⟩

end Report

end FlowCheck
