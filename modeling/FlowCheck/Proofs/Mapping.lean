import FlowCheck.Mapping
import FlowCheck.Proofs.Placement
import Mathlib.Data.List.Forall2

/-! # The diagnostics of a target

Diagnostics stand for places in a response: the number of an issue and the number of one of its
fragments. Which places have a diagnostic can be said of each place alone, and the diagnostics come
in the order of their places. So nothing is lost, told twice or moved, whatever the other issues
and fragments are.
-/

namespace FlowCheck

/-- The descriptions of fragments as one text. A later fragment without a file of its own is set off
by a full stop, any other one by a blank. -/
def joinedDescriptions (sentinel : String) : List Fragment → String
  | [] => ""
  | first :: rest =>
    first.description ++ String.join (rest.map fun fragment =>
      (if fragment.path = "" ∨ fragment.path = sentinel then ". " else " ") ++
        fragment.description)

/-- The message of an issue tells all its fragments, wherever they lie. -/
theorem Issue.message_eq (sentinel : String) (issue : Issue) :
    issue.message sentinel = joinedDescriptions sentinel issue.fragments := by
  have appended : ∀ (rest : List Fragment) (start : String),
      rest.foldl (fun text fragment =>
        text ++ fragment.joint sentinel ++ fragment.description) start =
          start ++ String.join (rest.map fun fragment =>
            (if fragment.path = "" ∨ fragment.path = sentinel then ". " else " ") ++
              fragment.description) := by
    intro rest
    induction rest with
    | nil => intro start; rw [List.foldl_nil, List.map_nil, String.join_nil, String.append_empty]
    | cons fragment rest ih =>
        intro start
        rw [List.foldl_cons, ih, List.map_cons, String.join_cons, Fragment.joint]
        simp only [String.append_assoc]
  unfold Issue.message joinedDescriptions
  cases issue.fragments with
  | nil => rfl
  | cons first rest => exact appended rest first.description

/-- The letters that have a case are those of the alphabet. -/
theorem asciiLower_eq_toLower (c : Char) : asciiLower c = c.toLower := by
  unfold asciiLower Char.toLower
  by_cases capital : 'A' ≤ c ∧ c ≤ 'Z'
  · have small : c.toNat + 32 < 0xD800 := by
      have below : c.toNat ≤ 'Z'.toNat := capital.2
      have last : 'Z'.toNat = 90 := rfl
      omega
    have within : c.val ≥ 'A'.val ∧ c.val ≤ 'Z'.val := capital
    rw [if_pos capital, dif_pos within]
    apply Char.toNat_inj.mp
    have code : (Char.ofNat (c.toNat + 32)).toNat = c.toNat + 32 := by
      rw [Char.ofNat, dif_pos (Or.inl small)]
      rfl
    rw [code]
    change c.val.toNat + 32 = (c.val + 32).toNat
    rw [UInt32.toNat_add]
    change c.val.toNat + 32 < 0xD800 at small
    simp only [UInt32.reduceToNat]
    omega
  · have outside : ¬ (c.val ≥ 'A'.val ∧ c.val ≤ 'Z'.val) := capital
    rw [if_neg capital, dif_neg outside]

/-- An issue is a warning exactly if its level is called so in some letter case. Without a level, or
with any other one, it is an error. -/
theorem Severity.ofLevel_eq_warning_iff {level : Option String} :
    ofLevel level = .warning ↔ ∃ name, level = some name ∧ name.toLower = "warning" := by
  cases level with
  | none => simp [ofLevel]
  | some name =>
      have letters : name.toList.map asciiLower = name.toLower.toList := by
        change _ = (name.map Char.toLower).toList
        rw [String.toList_map]
        exact List.map_congr_left fun c _ => asciiLower_eq_toLower c
      have called : name.toLower.toList = "warning".toList ↔ name.toLower = "warning" :=
        String.toList_inj
      simp only [ofLevel, letters, called, Option.some.injEq, exists_eq_left']
      simp

/-! ## Numbered results -/

section Numbering

variable {α β : Type}

/-- The results of the items that have one, each with the number of its item. -/
def numberedResults (result? : α → Option β) (items : List α) : List (Nat × β) :=
  items.zipIdx.filterMap fun entry => (result? entry.1).map (entry.2, ·)

/-- The results of all items, each with the number of its item before its own. -/
def sitedResults (results : α → Nat → List (Nat × β)) (items : List α) :
    List ((Nat × Nat) × β) :=
  items.zipIdx.flatMap fun entry =>
    (results entry.1 entry.2).map fun numbered => ((entry.2, numbered.1), numbered.2)

variable {result? : α → Option β} {results : α → Nat → List (Nat × β)} {items : List α}

/-- Without their numbers, numbered results are the results of a list. -/
theorem numberedResults_map_snd (result? : α → Option β) (items : List α) :
    (numberedResults result? items).map Prod.snd = items.filterMap result? := by
  rw [numberedResults, List.map_filterMap]
  conv_rhs => rw [← List.zipIdx_map_fst 0 items, List.filterMap_map]
  congr 1
  funext entry
  simp only [Option.map_map, Function.comp_def, Option.map_id']

/-- A numbered result is that of the item with its number. -/
theorem mem_numberedResults_iff {number : Nat} {result : β} :
    (number, result) ∈ numberedResults result? items ↔
      ∃ item, items[number]? = some item ∧ result? item = some result := by
  rw [numberedResults, List.mem_filterMap]
  constructor
  · rintro ⟨⟨item, place⟩, atPlace, numbered⟩
    obtain ⟨found, isResult, same⟩ := Option.map_eq_some_iff.mp numbered
    obtain ⟨rfl, rfl⟩ := Prod.mk.inj same
    exact ⟨item, List.mk_mem_zipIdx_iff_getElem?.mp atPlace, isResult⟩
  · rintro ⟨item, atPlace, isResult⟩
    refine ⟨(item, number), List.mk_mem_zipIdx_iff_getElem?.mpr atPlace, ?_⟩
    rw [isResult, Option.map_some]

/-- A sited result is among the results of the item with the first number of its site. -/
theorem mem_sitedResults_iff {site : Nat × Nat} {result : β} :
    (site, result) ∈ sitedResults results items ↔
      ∃ item, items[site.1]? = some item ∧ (site.2, result) ∈ results item site.1 := by
  rw [sitedResults, List.mem_flatMap]
  constructor
  · rintro ⟨⟨item, number⟩, atNumber, member⟩
    obtain ⟨⟨place, found⟩, inResults, same⟩ := List.mem_map.mp member
    obtain ⟨rfl, rfl⟩ := Prod.mk.inj same
    exact ⟨item, List.mk_mem_zipIdx_iff_getElem?.mp atNumber, inResults⟩
  · rintro ⟨item, atNumber, inResults⟩
    refine ⟨(item, site.1), List.mk_mem_zipIdx_iff_getElem?.mpr atNumber, ?_⟩
    exact List.mem_map.mpr ⟨(site.2, result), inResults, rfl⟩

private theorem zipIdx_pairwise (items : List α) :
    items.zipIdx.Pairwise fun earlier later => earlier.2 < later.2 := by
  rw [← List.pairwise_map (f := Prod.snd), List.zipIdx_map_snd]
  exact List.pairwise_lt_range'

/-- The numbers of results ascend. -/
theorem numberedResults_pairwise (result? : α → Option β) (items : List α) :
    ((numberedResults result? items).map Prod.fst).Pairwise (· < ·) := by
  rw [List.pairwise_map, numberedResults, List.pairwise_filterMap]
  refine (zipIdx_pairwise items).imp ?_
  intro earlier later before first firstIs second secondIs
  obtain ⟨_, _, rfl⟩ := Option.map_eq_some_iff.mp firstIs
  obtain ⟨_, _, rfl⟩ := Option.map_eq_some_iff.mp secondIs
  exact before

/-- The sites of results ascend if the numbers in the results of each item do. -/
theorem sitedResults_pairwise
    (ordered : ∀ item number, ((results item number).map Prod.fst).Pairwise (· < ·)) :
    ((sitedResults results items).map Prod.fst).Pairwise (Prod.Lex (· < ·) (· < ·)) := by
  rw [List.pairwise_map, sitedResults, List.pairwise_flatMap]
  constructor
  · intro entry _
    rw [List.pairwise_map]
    refine (List.pairwise_map.mp (ordered entry.1 entry.2)).imp ?_
    intro earlier later before
    exact Prod.Lex.right _ before
  · refine (zipIdx_pairwise items).imp ?_
    intro earlier later before first firstMember second secondMember
    obtain ⟨_, _, rfl⟩ := List.mem_map.mp firstMember
    obtain ⟨_, _, rfl⟩ := List.mem_map.mp secondMember
    exact Prod.Lex.left _ _ before

end Numbering

/-! ## Diagnostics and their places -/

namespace Target

variable {target : Target} {index : LineIndex}

/-- A target goes by its path and by its sentinel. -/
theorem isNamedBy_iff {path : String} :
    target.isNamedBy path = true ↔ path = target.path ∨ path = target.sentinel :=
  decide_eq_true_iff

/-- A fragment is in the target exactly if its path, which is not empty, names the target. -/
theorem holds_iff {fragment : Fragment} :
    target.holds fragment = true ↔
      fragment.path ≠ "" ∧ (fragment.path = target.path ∨ fragment.path = target.sentinel) := by
  rw [holds, Bool.and_eq_true, decide_eq_true_iff, isNamedBy_iff]

/-- An issue concerns the target: its first fragment names it, by its path or by the sentinel. -/
def Concerns (target : Target) (issue : Issue) : Prop :=
  ∃ primary, issue.fragments.head? = some primary ∧
    (primary.path = target.path ∨ primary.path = target.sentinel)

/-- Whether an issue belongs to the target: it has fragments, and the first names the target. -/
def owns (target : Target) (issue : Issue) : Bool :=
  issue.fragments.head?.any fun primary => target.isNamedBy primary.path

/-- An issue belongs to the target exactly if the path of its first fragment names the target. -/
theorem owns_iff {issue : Issue} :
    target.owns issue = true ↔ ∃ primary, issue.fragments.head? = some primary ∧
      (primary.path = target.path ∨ primary.path = target.sentinel) := by
  rw [owns, Option.any_eq_true_iff_get]
  constructor
  · rintro ⟨present, named⟩
    exact ⟨_, (Option.some_get present).symm, isNamedBy_iff.mp named⟩
  · rintro ⟨primary, found, named⟩
    refine ⟨by rw [found]; rfl, isNamedBy_iff.mpr ?_⟩
    simpa only [found, Option.get_some] using named

/-- The diagnostic of one fragment of an issue of the target, if it has one. -/
def diagnosis? (target : Target) (index : LineIndex) (issue : Issue) (fragment : Fragment) :
    Option Diagnostic :=
  if target.holds fragment then
    (fragment.span.place index).toOption.map fun range =>
      ⟨range, issue.severity, issue.message target.sentinel⟩
  else none

/-- A fragment gives a diagnostic exactly if it is in the target and can be placed. It says where,
and for the rest what the issue says. -/
theorem diagnosis?_eq_some_iff {issue : Issue} {fragment : Fragment} {diagnostic : Diagnostic} :
    target.diagnosis? index issue fragment = some diagnostic ↔
      target.holds fragment = true ∧ fragment.span.place index = .ok diagnostic.range ∧
        diagnostic.severity = issue.severity ∧
        diagnostic.message = issue.message target.sentinel := by
  unfold diagnosis?
  split
  · next held =>
      cases placed : fragment.span.place index with
      | error reason => simp [Except.toOption, held]
      | ok range =>
          cases diagnostic
          simp [Except.toOption, held, eq_comm]
  · next elsewhere => simp [elsewhere]

/-- The event of an issue that is skipped. -/
def skipEvent (number : Nat) (issue : Issue) : Event :=
  match issue.fragments with
  | [] => .issueWithoutFragments number
  | primary :: _ => .issueElsewhere number primary.path

/-- Something becomes of each fragment in the target if the issue belongs to the target, and an
event of the whole issue if not. -/
theorem placeIssue_eq (number : Nat) (issue : Issue) :
    target.placeIssue index number issue =
      if target.owns issue then
        (issue.fragments.filter target.holds).map
          (Outcome.ofFragment index number issue.severity (issue.message target.sentinel))
      else [.noted (skipEvent number issue)] := by
  unfold placeIssue owns skipEvent
  cases issue.fragments with
  | nil => rfl
  | cons primary rest => rfl

/-- The diagnostics of an issue are those of its fragments if the issue belongs to the target. -/
theorem placeIssue_diagnostics (number : Nat) (issue : Issue) :
    (target.placeIssue index number issue).filterMap Outcome.diagnostic? =
      if target.owns issue then issue.fragments.filterMap (target.diagnosis? index issue)
      else [] := by
  rw [placeIssue_eq]
  by_cases owned : target.owns issue
  · rw [if_pos owned, if_pos owned, List.filterMap_map, List.filterMap_filter]
    congr 1
    funext fragment
    unfold diagnosis? Function.comp Outcome.ofFragment
    cases fragment.span.place index <;> rfl
  · rw [if_neg owned, if_neg owned]
    rfl

/-- The issues of a list are placed one by one, by their numbers. -/
theorem placeFrom_eq_flatMap (number : Nat) (issues : List Issue) :
    target.placeFrom index number issues =
      (issues.zipIdx number).flatMap fun entry => target.placeIssue index entry.2 entry.1 := by
  induction issues generalizing number with
  | nil => rfl
  | cons issue rest ih => rw [placeFrom, ih, List.zipIdx_cons, List.flatMap_cons]

/-- The diagnostics of an issue, each with the number of its fragment. -/
def numberedDiagnoses (target : Target) (index : LineIndex) (issue : Issue) :
    List (Nat × Diagnostic) :=
  if target.owns issue then
    issue.fragments.zipIdx.filterMap fun entry =>
      (target.diagnosis? index issue entry.1).map (entry.2, ·)
  else []

/-- The diagnostics of a response, each with the number of its issue and that of its fragment. -/
def sitedDiagnoses (target : Target) (index : LineIndex) (issues : List Issue) :
    List ((Nat × Nat) × Diagnostic) :=
  issues.zipIdx.flatMap fun entry =>
    (target.numberedDiagnoses index entry.1).map fun numbered =>
      ((entry.2, numbered.1), numbered.2)

/-- The diagnostics do not depend on the numbers of the issues. -/
theorem diagnostics_value (issues : List Issue) :
    (target.diagnostics index issues).value = issues.flatMap fun issue =>
      if target.owns issue then issue.fragments.filterMap (target.diagnosis? index issue)
      else [] := by
  unfold diagnostics place
  dsimp only
  rw [placeFrom_eq_flatMap, List.filterMap_flatMap]
  simp only [placeIssue_diagnostics]
  conv_rhs => rw [← List.zipIdx_map_fst 0 issues, List.flatMap_map]

private theorem numberedDiagnoses_eq (issue : Issue) :
    target.numberedDiagnoses index issue =
      if target.owns issue then numberedResults (target.diagnosis? index issue) issue.fragments
      else [] :=
  rfl

private theorem sitedDiagnoses_eq (issues : List Issue) :
    target.sitedDiagnoses index issues =
      sitedResults (fun issue _ => target.numberedDiagnoses index issue) issues :=
  rfl

/-- Without their places, these are the diagnostics. -/
theorem sitedDiagnoses_map_snd (issues : List Issue) :
    (target.sitedDiagnoses index issues).map Prod.snd =
      (target.diagnostics index issues).value := by
  have unnumbered : ∀ issue, (target.numberedDiagnoses index issue).map Prod.snd =
      if target.owns issue then issue.fragments.filterMap (target.diagnosis? index issue)
      else [] := by
    intro issue
    rw [numberedDiagnoses_eq]
    split
    · exact numberedResults_map_snd ..
    · rfl
  rw [diagnostics_value, sitedDiagnoses, List.map_flatMap]
  simp only [List.map_map, Function.comp_def, unnumbered]
  conv_rhs => rw [← List.zipIdx_map_fst 0 issues, List.flatMap_map]

/-- A place has a diagnostic exactly if the issue there belongs to the target and the fragment has
one. -/
theorem mem_sitedDiagnoses_iff {issues : List Issue} {site : Nat × Nat}
    {diagnostic : Diagnostic} :
    (site, diagnostic) ∈ target.sitedDiagnoses index issues ↔
      ∃ issue fragment, issues[site.1]? = some issue ∧ target.owns issue = true ∧
        issue.fragments[site.2]? = some fragment ∧
        target.diagnosis? index issue fragment = some diagnostic := by
  rw [sitedDiagnoses_eq, mem_sitedResults_iff]
  constructor
  · rintro ⟨issue, atNumber, member⟩
    rw [numberedDiagnoses_eq] at member
    split at member
    · next owned =>
        obtain ⟨fragment, atPlace, diagnosed⟩ := mem_numberedResults_iff.mp member
        exact ⟨issue, fragment, atNumber, owned, atPlace, diagnosed⟩
    · cases member
  · rintro ⟨issue, fragment, atNumber, owned, atPlace, diagnosed⟩
    refine ⟨issue, atNumber, ?_⟩
    rw [numberedDiagnoses_eq, if_pos owned]
    exact mem_numberedResults_iff.mpr ⟨fragment, atPlace, diagnosed⟩

/-- The places of the diagnostics are in order, issue by issue and fragment by fragment. -/
theorem sitedDiagnoses_pairwise (issues : List Issue) :
    ((target.sitedDiagnoses index issues).map Prod.fst).Pairwise
      (Prod.Lex (· < ·) (· < ·)) := by
  rw [sitedDiagnoses_eq]
  apply sitedResults_pairwise
  intro issue _
  rw [numberedDiagnoses_eq]
  split
  · exact numberedResults_pairwise ..
  · exact List.Pairwise.nil

/-- Every diagnostic of a target has the range that some fragment is placed at. -/
theorem exists_place_of_mem {issues : List Issue} {diagnostic : Diagnostic}
    (member : diagnostic ∈ (target.diagnostics index issues).value) :
    ∃ span : Span, span.place index = .ok diagnostic.range := by
  rw [← sitedDiagnoses_map_snd] at member
  obtain ⟨⟨site, _⟩, sited, rfl⟩ := List.mem_map.mp member
  obtain ⟨issue, fragment, -, -, -, diagnosed⟩ := mem_sitedDiagnoses_iff.mp sited
  obtain ⟨-, placed, -⟩ := diagnosis?_eq_some_iff.mp diagnosed
  exact ⟨fragment.span, placed⟩

/-- Whatever a response says, its diagnostics have their ends in order and in the text. -/
theorem within_of_mem {doc : Document} {issues : List Issue} {diagnostic : Diagnostic}
    (member : diagnostic ∈ (target.diagnostics doc.lineIndex issues).value) :
    diagnostic.range.start ≤ diagnostic.range.stop ∧ diagnostic.range.stop ≤ doc.length := by
  obtain ⟨span, placed⟩ := exists_place_of_mem member
  obtain ⟨_, _, -, -, -, -, ordered, inIndex⟩ := Span.names_of_place placed
  exact ⟨ordered, inIndex⟩

/-- A place in a response that has a diagnostic: the first fragment of the issue there names the
target, and the fragment there has a path, names the target, and can be placed. -/
def HasDiagnosisAt (target : Target) (index : LineIndex) (issues : List Issue)
    (site : Nat × Nat) : Prop :=
  ∃ issue primary fragment range, issues[site.1]? = some issue ∧
    issue.fragments.head? = some primary ∧
    (primary.path = target.path ∨ primary.path = target.sentinel) ∧
    issue.fragments[site.2]? = some fragment ∧ fragment.path ≠ "" ∧
    (fragment.path = target.path ∨ fragment.path = target.sentinel) ∧
    fragment.span.place index = .ok range

/-- A diagnostic as it has to be for a place: the range of the fragment there, and the severity and
the whole message of the issue there. It is a warning if the issue's level is called so in any
letter case, and an error otherwise. -/
def IsDiagnosisAt (target : Target) (index : LineIndex) (issues : List Issue) (site : Nat × Nat)
    (diagnostic : Diagnostic) : Prop :=
  ∃ issue fragment, issues[site.1]? = some issue ∧ issue.fragments[site.2]? = some fragment ∧
    fragment.span.place index = .ok diagnostic.range ∧
    (diagnostic.severity = .warning ↔
      ∃ level, issue.level = some level ∧ level.toLower = "warning") ∧
    diagnostic.message = joinedDescriptions target.sentinel issue.fragments

/-- **Diagnostics and places correspond.** The diagnostics of a response stand, one for one and in
order, for the places that have one. A fragment without a path has none, nor has an issue without
fragments. -/
theorem diagnostics_correspond (target : Target) (index : LineIndex) (issues : List Issue) :
    ∃ sites : List (Nat × Nat), sites.Pairwise (Prod.Lex (· < ·) (· < ·)) ∧
      (∀ site, site ∈ sites ↔ target.HasDiagnosisAt index issues site) ∧
      List.Forall₂ (target.IsDiagnosisAt index issues) sites
        (target.diagnostics index issues).value ∧
      (∀ site issue fragment, issues[site.1]? = some issue →
        issue.fragments[site.2]? = some fragment → fragment.path = "" → site ∉ sites) ∧
      ∀ site issue, issues[site.1]? = some issue → issue.fragments = [] → site ∉ sites := by
  have located : ∀ site, site ∈ (target.sitedDiagnoses index issues).map Prod.fst ↔
      target.HasDiagnosisAt index issues site := by
    intro site
    rw [List.mem_map]
    constructor
    · rintro ⟨⟨_, diagnostic⟩, member, rfl⟩
      obtain ⟨issue, fragment, atNumber, owned, atPlace, diagnosed⟩ :=
        mem_sitedDiagnoses_iff.mp member
      obtain ⟨primary, isFirst, named⟩ := owns_iff.mp owned
      obtain ⟨held, placed, -⟩ := diagnosis?_eq_some_iff.mp diagnosed
      obtain ⟨nonempty, here⟩ := holds_iff.mp held
      exact ⟨issue, primary, fragment, diagnostic.range, atNumber, isFirst, named, atPlace,
        nonempty, here, placed⟩
    · rintro ⟨issue, primary, fragment, range, atNumber, isFirst, named, atPlace, nonempty, here,
        placed⟩
      refine ⟨(site, ⟨range, issue.severity, issue.message target.sentinel⟩), ?_, rfl⟩
      exact mem_sitedDiagnoses_iff.mpr ⟨issue, fragment, atNumber,
        owns_iff.mpr ⟨primary, isFirst, named⟩, atPlace,
        diagnosis?_eq_some_iff.mpr ⟨holds_iff.mpr ⟨nonempty, here⟩, placed, rfl, rfl⟩⟩
  refine ⟨_, sitedDiagnoses_pairwise issues, located, ?_, ?_, ?_⟩
  · rw [← sitedDiagnoses_map_snd, List.forall₂_map_left_iff, List.forall₂_map_right_iff,
      List.forall₂_same]
    rintro ⟨site, diagnostic⟩ member
    obtain ⟨issue, fragment, atNumber, -, atPlace, diagnosed⟩ := mem_sitedDiagnoses_iff.mp member
    obtain ⟨-, placed, severe, worded⟩ := diagnosis?_eq_some_iff.mp diagnosed
    have level : diagnostic.severity = .warning ↔
        ∃ level, issue.level = some level ∧ level.toLower = "warning" := by
      rw [severe]
      exact Severity.ofLevel_eq_warning_iff
    exact ⟨issue, fragment, atNumber, atPlace, placed, level,
      worded.trans (issue.message_eq target.sentinel)⟩
  · intro site issue fragment atNumber atPlace empty member
    obtain ⟨issue', _, fragment', _, atNumber', -, -, atPlace', nonempty, -⟩ :=
      (located site).mp member
    obtain rfl := Option.some.inj (atNumber'.symm.trans atNumber)
    obtain rfl := Option.some.inj (atPlace'.symm.trans atPlace)
    exact nonempty empty
  · intro site issue atNumber empty member
    obtain ⟨issue', _, fragment, _, atNumber', -, -, atPlace, -⟩ := (located site).mp member
    obtain rfl := Option.some.inj (atNumber'.symm.trans atNumber)
    rw [empty] at atPlace
    cases atPlace

end Target

end FlowCheck
