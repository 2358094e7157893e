import FlowCheck.Proofs.Mapping

/-! # Relocating a fragment

A fragment may claim to lie anywhere. Its coordinates take no part in what is said of the issue, nor
in whether the issue or any fragment belongs to the target, so other coordinates can at most change,
add or take away the one diagnostic that stands for the fragment. An issue that does not concern the
target changes nothing wherever it stands.
-/

namespace FlowCheck

/-- A fragment with other coordinates. -/
def Fragment.relocate (span : Span) (fragment : Fragment) : Fragment :=
  { fragment with
    startLine := span.startLine
    endLine := span.endLine
    startColumn := span.startColumn
    endColumn := span.endColumn }

/-- An issue with other coordinates for one of its fragments. -/
def Issue.relocate (part : Nat) (span : Span) (issue : Issue) : Issue :=
  { issue with fragments := issue.fragments.modify part (Fragment.relocate span) }

@[simp]
theorem Issue.relocate_severity (part : Nat) (span : Span) (issue : Issue) :
    (issue.relocate part span).severity = issue.severity :=
  rfl

private theorem modify_split {α : Type} {entries : List α} {place : Nat} {entry : α}
    (found : entries[place]? = some entry) :
    ∃ before behind, entries = before ++ entry :: behind ∧
      ∀ change : α → α, entries.modify place change = before ++ change entry :: behind := by
  obtain ⟨inside, rfl⟩ := List.getElem?_eq_some_iff.mp found
  refine ⟨entries.take place, entries.drop (place + 1), ?_, ?_⟩
  · have kept := List.modify_eq_take_cons_drop (f := id) inside
    rwa [List.modify_id] at kept
  · intro change
    exact List.modify_eq_take_cons_drop inside

variable {issue : Issue} {fragment : Fragment} {part : Nat}

/-- Messages tell descriptions, and their joints look at paths only. -/
theorem Issue.relocate_message (found : issue.fragments[part]? = some fragment) (span : Span)
    (sentinel : String) : (issue.relocate part span).message sentinel = issue.message sentinel := by
  obtain ⟨before, behind, fragments, relocated⟩ := modify_split found
  rw [message_eq, message_eq, relocate, relocated, fragments]
  cases before with
  | nil => rfl
  | cons first before =>
      simp only [List.cons_append, joinedDescriptions, List.map_append, List.map_cons]
      rfl

namespace Target

variable {target : Target} {index : LineIndex}

private theorem owns_relocate (found : issue.fragments[part]? = some fragment) (span : Span) :
    target.owns (issue.relocate part span) = target.owns issue := by
  obtain ⟨before, behind, fragments, relocated⟩ := modify_split found
  rw [owns, owns, Issue.relocate, relocated, fragments]
  cases before with
  | nil => rfl
  | cons first before => rfl

/-- What a fragment contributes to the diagnostics as a part of an issue. -/
def contribution? (target : Target) (index : LineIndex) (issue : Issue) (fragment : Fragment) :
    Option Diagnostic :=
  if target.owns issue then target.diagnosis? index issue fragment else none

/-- What a fragment contributes to the diagnostics: its range, and for the rest what its issue
says. -/
theorem contribution?_eq_some_iff {diagnostic : Diagnostic} :
    target.contribution? index issue fragment = some diagnostic ↔
      target.Concerns issue ∧ target.holds fragment = true ∧
        fragment.span.place index = .ok diagnostic.range ∧
          diagnostic.severity = issue.severity ∧
            diagnostic.message = issue.message target.sentinel := by
  rw [contribution?, Option.ite_none_right_eq_some, diagnosis?_eq_some_iff, owns_iff]
  rfl

private theorem contribution?_eq_none
    (missing : ¬ target.Concerns issue ∨ target.holds fragment = false) :
    target.contribution? index issue fragment = none := by
  rw [Option.eq_none_iff_forall_ne_some]
  intro diagnostic contributed
  obtain ⟨concerns, held, -⟩ := contribution?_eq_some_iff.mp contributed
  rcases missing with elsewhere | outside
  · exact elsewhere concerns
  · rw [outside] at held
    cases held

private theorem contribution?_map_range (concerns : target.Concerns issue)
    (held : target.holds fragment = true) :
    (target.contribution? index issue fragment).map Diagnostic.range =
      (fragment.span.place index).toOption := by
  rw [contribution?, if_pos (owns_iff.mpr concerns), diagnosis?, if_pos held, Option.map_map]
  exact Option.map_id'

/-- A fragment contributes the same to an issue whatever the coordinates of one fragment are. -/
theorem contribution?_relocate (found : issue.fragments[part]? = some fragment) (span : Span) :
    target.contribution? index (issue.relocate part span) = target.contribution? index issue := by
  funext other
  rw [contribution?, contribution?, diagnosis?, diagnosis?, owns_relocate found,
    Issue.relocate_message found, Issue.relocate_severity]

/-- The diagnostics are what the fragments contribute, issue by issue. -/
theorem diagnostics_eq_flatMap (issues : List Issue) :
    (target.diagnostics index issues).value = issues.flatMap fun issue =>
      issue.fragments.filterMap (target.contribution? index issue) := by
  rw [diagnostics_value]
  congr 1
  funext issue
  unfold contribution?
  by_cases owned : target.owns issue
  · simp only [owned, ↓reduceIte]
  · simp only [owned, Bool.false_eq_true, ↓reduceIte, List.filterMap_none]

/-- An issue that does not concern the target contributes nothing. -/
theorem diagnostics_skip {skipped : Issue} (elsewhere : ¬ target.Concerns skipped)
    (before behind : List Issue) :
    (target.diagnostics index (before ++ skipped :: behind)).value =
      (target.diagnostics index (before ++ behind)).value := by
  have nothing : skipped.fragments.filterMap (target.contribution? index skipped) = [] := by
    rw [List.filterMap_eq_nil_iff]
    intro fragment _
    exact contribution?_eq_none (.inl elsewhere)
  rw [diagnostics_eq_flatMap, diagnostics_eq_flatMap, List.flatMap_append, List.flatMap_append,
    List.flatMap_cons, nothing, List.nil_append]

/-- The diagnostics are those before a fragment, what it contributes, and those behind it, and its
coordinates only matter for what it contributes. -/
theorem exists_diagnostics_around {issues : List Issue} {number : Nat}
    (atNumber : issues[number]? = some issue)
    (atPart : issue.fragments[part]? = some fragment) :
    ∃ before behind : List Diagnostic,
      (target.diagnostics index issues).value =
        before ++ (target.contribution? index issue fragment).toList ++ behind ∧
      ∀ span : Span,
        (target.diagnostics index (issues.modify number (Issue.relocate part span))).value =
          before ++ (target.contribution? index issue (fragment.relocate span)).toList ++
            behind := by
  obtain ⟨earlier, later, isList, relocatedList⟩ := modify_split atNumber
  obtain ⟨first, last, isIssue, relocatedIssue⟩ := modify_split atPart
  let contributions : List Fragment → List Diagnostic :=
    List.filterMap (target.contribution? index issue)
  let before := (target.diagnostics index earlier).value ++ contributions first
  let behind := contributions last ++ (target.diagnostics index later).value
  have around : ∀ (other : Issue) (changed : Fragment),
      target.contribution? index other = target.contribution? index issue →
        other.fragments = first ++ changed :: last →
          (target.diagnostics index (earlier ++ other :: later)).value =
            before ++ (target.contribution? index issue changed).toList ++ behind := by
    intro other changed alike fragments
    rw [diagnostics_eq_flatMap, List.flatMap_append, List.flatMap_cons, ← diagnostics_eq_flatMap,
      ← diagnostics_eq_flatMap, alike, fragments, List.filterMap_append, List.filterMap_cons]
    cases target.contribution? index issue changed <;>
      simp only [before, behind, contributions, Option.toList, List.append_assoc, List.nil_append,
        List.cons_append]
  refine ⟨before, behind, ?_, fun span => ?_⟩
  · rw [isList]
    exact around issue fragment rfl isIssue
  · rw [relocatedList]
    exact around _ _ (contribution?_relocate atPart span) (relocatedIssue _)

/-- **A bad place spoils only its own diagnostic.** Give a fragment of an issue any other
coordinates: the diagnostics before it and behind it stay as they are. Between them stands at most
one, with the severity and the message it had, and none at all if the issue does not concern the
target or the fragment does not lie in it; otherwise its range is that of the coordinates. An issue
that does not concern the target can be put in anywhere without a change. -/
theorem relocation_spoils_one (target : Target) (index : LineIndex) :
    (∀ (issues : List Issue) (number part : Nat) (issue : Issue) (fragment : Fragment),
      issues[number]? = some issue → issue.fragments[part]? = some fragment →
        ∃ (before behind : List Diagnostic) (own : Option Diagnostic),
          (target.diagnostics index issues).value = before ++ own.toList ++ behind ∧
          ∀ span : Span, ∃ relocated : Option Diagnostic,
            (target.diagnostics index (issues.modify number (Issue.relocate part span))).value =
              before ++ relocated.toList ++ behind ∧
            (∀ diagnostic ∈ own, ∀ other ∈ relocated,
              other.severity = diagnostic.severity ∧ other.message = diagnostic.message) ∧
            (¬ target.Concerns issue ∨ target.holds fragment = false →
              own = none ∧ relocated = none) ∧
            (target.Concerns issue → target.holds fragment = true →
              own.map Diagnostic.range = (fragment.span.place index).toOption ∧
                relocated.map Diagnostic.range = (span.place index).toOption)) ∧
    ∀ (before behind : List Issue) (skipped : Issue), ¬ target.Concerns skipped →
      (target.diagnostics index (before ++ skipped :: behind)).value =
        (target.diagnostics index (before ++ behind)).value := by
  refine ⟨?_, fun before behind skipped elsewhere => diagnostics_skip elsewhere before behind⟩
  intro issues number part issue fragment atNumber atPart
  obtain ⟨before, behind, whole, relocatedWhole⟩ := exists_diagnostics_around atNumber atPart
  refine ⟨before, behind, target.contribution? index issue fragment, whole, fun span =>
    ⟨target.contribution? index issue (fragment.relocate span), relocatedWhole span, ?_, ?_, ?_⟩⟩
  · intro diagnostic isOwn other isOther
    obtain ⟨-, -, -, severe, worded⟩ := contribution?_eq_some_iff.mp isOwn
    obtain ⟨-, -, -, severe', worded'⟩ := contribution?_eq_some_iff.mp isOther
    exact ⟨severe'.trans severe.symm, worded'.trans worded.symm⟩
  · intro missing
    exact ⟨contribution?_eq_none missing, contribution?_eq_none missing⟩
  · intro concerns held
    exact ⟨contribution?_map_range concerns held, contribution?_map_range concerns held⟩

/-- An issue whose first fragment lies far behind a text of two lines. -/
def farIssue : Issue where
  fragments := [⟨"far", "a.js", 9, 9, 1, 1⟩, ⟨"near", "-", 1, 1, 1, 2⟩]

/-- An issue of another file. -/
def foreignIssue : Issue where
  fragments := [⟨"foreign", "b.js", 1, 1, 1, 1⟩, ⟨"near", "a.js", 1, 1, 1, 2⟩]

/-- Brought back to the second line, the first fragment gets a diagnostic there and changes nothing
else. The issue of another file in front of it does not matter. -/
theorem relocation_spoils_one_of_far :
    let target : Target := ⟨"a.js", "-"⟩
    let index := (Document.ofString "ab\nc").lineIndex
    [foreignIssue, farIssue][1]? = some farIssue ∧ ¬ target.Concerns foreignIssue ∧
      (target.diagnostics index [foreignIssue, farIssue]).value =
        (target.diagnostics index [farIssue]).value ∧
      ∃ before behind diagnostic,
        (target.diagnostics index [foreignIssue, farIssue]).value = before ++ behind ∧
        (target.diagnostics index
          ([foreignIssue, farIssue].modify 1 (Issue.relocate 0 ⟨2, 1, 2, 1⟩))).value =
            before ++ diagnostic :: behind ∧ diagnostic.range = ⟨3, 4⟩ := by
  intro target index
  obtain ⟨locally, skips⟩ := relocation_spoils_one target index
  have elsewhere : ¬ target.Concerns foreignIssue := by
    rintro ⟨primary, isFirst, named⟩
    obtain rfl := Option.some.inj isFirst
    revert named
    decide
  have concerns : target.Concerns farIssue := ⟨_, rfl, .inl rfl⟩
  refine ⟨rfl, elsewhere, skips [] [farIssue] foreignIssue elsewhere, ?_⟩
  obtain ⟨before, behind, own, whole, relocates⟩ :=
    locally [foreignIssue, farIssue] 1 0 farIssue _ rfl rfl
  obtain ⟨relocated, relocatedWhole, -, -, ranges⟩ := relocates ⟨2, 1, 2, 1⟩
  obtain ⟨ownRange, range⟩ := ranges concerns (by decide)
  obtain rfl : own = none := Option.map_eq_none_iff.mp ownRange
  obtain ⟨diagnostic, rfl, isRange⟩ := Option.map_eq_some_iff.mp
    (range.trans (show _ = some (⟨3, 4⟩ : TextRange) from rfl))
  refine ⟨before, behind, diagnostic, ?_, ?_, isRange⟩
  · rw [whole, Option.toList_none, List.append_nil]
  · rw [relocatedWhole, Option.toList_some, List.append_assoc, List.singleton_append]

end Target

end FlowCheck
