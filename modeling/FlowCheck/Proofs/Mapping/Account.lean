import FlowCheck.Proofs.Mapping
import Mathlib.Algebra.GroupWithZero.Nat

/-! # The account of what is dropped

What does not become a diagnostic leaves an event. An issue that is skipped has one, and of the
others each fragment in the target that cannot be placed has one. The events come in the order of
what they are about, there are no others, and with the diagnostics they add up to the fragments that
lie in the target.
-/

namespace FlowCheck

/-- Whether an event tells that a fragment was dropped. -/
def Event.tellsDropped : Event → Bool
  | .fragmentDropped .. => true
  | _ => false

namespace Target

variable {target : Target} {index : LineIndex} {issue : Issue} {number : Nat}

/-! ## Events and their places -/

/-- The event of one fragment of an issue of the target, if it has one. -/
def dropping? (target : Target) (index : LineIndex) (number : Nat) (fragment : Fragment) :
    Option Event :=
  if target.holds fragment then
    match fragment.span.place index with
    | .ok _ => none
    | .error reason => some (.fragmentDropped number fragment.description reason)
  else none

/-- A fragment is dropped exactly if it is in the target and cannot be placed. -/
theorem dropping?_eq_some_iff {fragment : Fragment} {event : Event} :
    target.dropping? index number fragment = some event ↔
      target.holds fragment = true ∧ ∃ reason, fragment.span.place index = .error reason ∧
        event = .fragmentDropped number fragment.description reason := by
  rw [dropping?, Option.ite_none_right_eq_some]
  apply and_congr_right
  intro _
  cases fragment.span.place index with
  | ok range =>
      constructor
      · nofun
      · rintro ⟨_, unplaced, -⟩
        cases unplaced
  | error reason =>
      constructor
      · intro same
        exact ⟨reason, rfl, (Option.some.inj same).symm⟩
      · rintro ⟨_, unplaced, rfl⟩
        cases unplaced
        rfl

/-- The events of an issue, each with the number of a fragment. An issue that is skipped is told of
where its first fragment stands. -/
def numberedEvents (target : Target) (index : LineIndex) (issue : Issue) (number : Nat) :
    List (Nat × Event) :=
  if target.owns issue then numberedResults (target.dropping? index number) issue.fragments
  else [(0, skipEvent number issue)]

/-- The events of a response, each with its place. -/
def sitedEvents (target : Target) (index : LineIndex) (issues : List Issue) :
    List ((Nat × Nat) × Event) :=
  sitedResults (target.numberedEvents index) issues

private theorem numberedEvents_map_snd (issue : Issue) (number : Nat) :
    (target.numberedEvents index issue number).map Prod.snd =
      (target.placeIssue index number issue).filterMap Outcome.event? := by
  rw [numberedEvents, placeIssue_eq]
  by_cases owned : target.owns issue
  · rw [if_pos owned, if_pos owned, numberedResults_map_snd, List.filterMap_map,
      List.filterMap_filter]
    congr 1
    funext fragment
    unfold dropping? Function.comp Outcome.ofFragment
    cases fragment.span.place index <;> rfl
  · rw [if_neg owned, if_neg owned]
    rfl

private theorem sitedEvents_map_snd (issues : List Issue) :
    (target.sitedEvents index issues).map Prod.snd =
      (target.diagnostics index issues).events := by
  unfold sitedEvents sitedResults diagnostics place
  dsimp only
  rw [placeFrom_eq_flatMap, List.filterMap_flatMap, List.map_flatMap]
  congr 1
  funext entry
  rw [← numberedEvents_map_snd, List.map_map]
  rfl

private theorem sitedEvents_pairwise (issues : List Issue) :
    ((target.sitedEvents index issues).map Prod.fst).Pairwise (Prod.Lex (· < ·) (· < ·)) := by
  apply sitedResults_pairwise
  intro issue number
  unfold numberedEvents
  split
  · exact numberedResults_pairwise ..
  · exact List.pairwise_singleton ..

/-- What the log has to say of an issue with a number, at the number of a fragment: the event, its
level and its words. -/
inductive Logs (target : Target) (index : LineIndex) (number : Nat) (issue : Issue) :
    Nat → Event → EventLevel → String → Prop where
  | bare (empty : issue.fragments = []) :
      target.Logs index number issue 0 (.issueWithoutFragments number) .warn
        s!"skipping checker error #{number}: no message parts"
  | elsewhere {primary : Fragment} (isFirst : issue.fragments.head? = some primary)
      (otherPath : primary.path ≠ target.path) (otherSentinel : primary.path ≠ target.sentinel) :
      target.Logs index number issue 0 (.issueElsewhere number primary.path) .debug
        s!"skipping checker error #{number} reported for {primary.path}"
  | dropped {part : Nat} {fragment : Fragment} {reason : PlacementError}
      (concerns : target.Concerns issue) (atPart : issue.fragments[part]? = some fragment)
      (nonempty : fragment.path ≠ "")
      (here : fragment.path = target.path ∨ fragment.path = target.sentinel)
      (unplaced : fragment.span.place index = .error reason) :
      target.Logs index number issue part
        (.fragmentDropped number fragment.description reason) .warn
        (s!"dropping part of checker error #{number} ({Text.quoted fragment.description}): " ++
          reason.message)

private theorem logs_skipEvent (skipped : ¬ target.Concerns issue) :
    target.Logs index number issue 0 (skipEvent number issue) (skipEvent number issue).level
      (skipEvent number issue).message := by
  unfold skipEvent
  cases fragments : issue.fragments with
  | nil => exact .bare fragments
  | cons primary rest =>
      have isFirst : issue.fragments.head? = some primary := by rw [fragments, List.head?_cons]
      refine .elsewhere isFirst (fun same => ?_) (fun same => ?_)
      · exact skipped ⟨primary, isFirst, .inl same⟩
      · exact skipped ⟨primary, isFirst, .inr same⟩

/-- The events of an issue are those that are due, each at the fragment that it is about. -/
theorem mem_numberedEvents_iff {part : Nat} {event : Event} :
    (part, event) ∈ target.numberedEvents index issue number ↔
      target.Logs index number issue part event event.level event.message := by
  rw [numberedEvents]
  constructor
  · intro member
    by_cases owned : target.owns issue
    · rw [if_pos owned] at member
      obtain ⟨fragment, atPart, dropped⟩ := mem_numberedResults_iff.mp member
      obtain ⟨held, reason, unplaced, rfl⟩ := dropping?_eq_some_iff.mp dropped
      obtain ⟨nonempty, here⟩ := holds_iff.mp held
      exact .dropped (owns_iff.mp owned) atPart nonempty here unplaced
    · rw [if_neg owned] at member
      obtain ⟨rfl, rfl⟩ := Prod.mk.inj (List.mem_singleton.mp member)
      exact logs_skipEvent fun concerns => owned (owns_iff.mpr concerns)
  · generalize event.level = level
    generalize event.message = words
    intro logged
    cases logged with
    | bare empty =>
        have skipped : target.owns issue = false := by rw [owns, empty]; rfl
        simp only [skipped, skipEvent, empty, Bool.false_eq_true, ↓reduceIte, List.mem_singleton]
    | @elsewhere primary isFirst otherPath otherSentinel =>
        have skipped : ¬ target.owns issue = true := by
          intro owned
          obtain ⟨other, isOther, here⟩ := owns_iff.mp owned
          obtain rfl := Option.some.inj (isFirst.symm.trans isOther)
          exact here.elim otherPath otherSentinel
        obtain ⟨rest, fragments⟩ := List.head?_eq_some_iff.mp isFirst
        rw [if_neg skipped, skipEvent, fragments]
        exact List.mem_singleton_self _
    | @dropped _ fragment reason concerns atPart nonempty here unplaced =>
        rw [if_pos (owns_iff.mpr concerns)]
        apply mem_numberedResults_iff.mpr
        refine ⟨fragment, atPart, dropping?_eq_some_iff.mpr ⟨?_, reason, unplaced, rfl⟩⟩
        exact holds_iff.mpr ⟨nonempty, here⟩

/-! ## Counting -/

/-- Each fragment that lies in the target is either diagnosed or told to be dropped. -/
theorem ofFragment_counts (severity : Severity) (message : String) (located : List Fragment) :
    let outcomes := located.map (Outcome.ofFragment index number severity message)
    (outcomes.filterMap Outcome.diagnostic?).length +
      (outcomes.filterMap Outcome.event?).countP Event.tellsDropped = located.length := by
  induction located with
  | nil => rfl
  | cons fragment located ih =>
      dsimp only at ih ⊢
      rw [List.map_cons, List.length_cons, ← ih]
      unfold Outcome.ofFragment
      cases fragment.span.place index with
      | ok range =>
          simp only [List.filterMap_cons, Outcome.diagnostic?, Outcome.event?, List.length_cons]
          exact Nat.add_right_comm ..
      | error reason =>
          simp only [List.filterMap_cons, Outcome.diagnostic?, Outcome.event?, List.countP_cons,
            Event.tellsDropped, ↓reduceIte]
          rfl

/-- Of an issue of the target each fragment that lies in it is either diagnosed or told to be
dropped, and of any other issue none is. -/
theorem placeIssue_counts (issue : Issue) (number : Nat) :
    let outcomes := target.placeIssue index number issue
    (outcomes.filterMap Outcome.diagnostic?).length +
      (outcomes.filterMap Outcome.event?).countP Event.tellsDropped =
        if target.owns issue then issue.fragments.countP target.holds else 0 := by
  rw [placeIssue_eq]
  by_cases owned : target.owns issue
  · rw [if_pos owned, if_pos owned]
    exact (ofFragment_counts ..).trans List.countP_eq_length_filter.symm
  · rw [if_neg owned, if_neg owned]
    unfold skipEvent
    cases issue.fragments <;> rfl

private theorem placeFrom_counts (issues : List Issue) (number : Nat) :
    let outcomes := target.placeFrom index number issues
    (outcomes.filterMap Outcome.diagnostic?).length +
      (outcomes.filterMap Outcome.event?).countP Event.tellsDropped =
        ((issues.filter target.owns).map fun issue => issue.fragments.countP target.holds).sum := by
  induction issues generalizing number with
  | nil => rfl
  | cons issue rest ih =>
      have others := ih (number + 1)
      dsimp only at others ⊢
      rw [placeFrom, List.filterMap_append, List.filterMap_append, List.length_append,
        List.countP_append, Nat.add_add_add_comm, placeIssue_counts, others, List.filter_cons]
      by_cases owned : target.owns issue
      · rw [if_pos owned, if_pos owned, List.map_cons, List.sum_cons]
      · rw [if_neg owned, if_neg owned, Nat.zero_add]

/-- **Nothing is dropped silently.** The events of a response stand in order, one at each of their
places, and they are exactly those that are due: a warning of an issue without fragments, a note of
an issue that names another file first, and for each other issue a warning of each fragment that
lies in the target and cannot be placed, with the number of the issue, the description and the
reason. The diagnostics and the fragments told to be dropped are as many as the fragments of the
target's issues that lie in the target. -/
theorem nothing_dropped_silently (target : Target) (index : LineIndex) (issues : List Issue) :
    let logged := target.diagnostics index issues
    (∃ noted : List ((Nat × Nat) × Event), noted.map Prod.snd = logged.events ∧
      (noted.map Prod.fst).Pairwise (Prod.Lex (· < ·) (· < ·)) ∧
      ∀ site event, (site, event) ∈ noted ↔ ∃ issue, issues[site.1]? = some issue ∧
        target.Logs index site.1 issue site.2 event event.level event.message) ∧
    logged.value.length + logged.events.countP Event.tellsDropped =
      ((issues.filter target.owns).map fun issue => issue.fragments.countP target.holds).sum := by
  intro logged
  refine ⟨⟨target.sitedEvents index issues, sitedEvents_map_snd issues,
    sitedEvents_pairwise issues, ?_⟩, placeFrom_counts issues 0⟩
  intro site event
  rw [sitedEvents, mem_sitedResults_iff]
  simp only [mem_numberedEvents_iff]

end Target

end FlowCheck
