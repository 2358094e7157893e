import FlowCheck.Proofs.Yaml.Overlay

/-! # Overlaying once more

A mapping that is laid over something else than a mapping is taken over whole, and with it the nulls
at its keys. The next time there is a mapping in its place, and the nulls take their keys away. That
is all that overlaying a value a second time can change, and there is nothing left for a third time.
-/

namespace FlowCheck.Yaml

open Value

/-- Laying a value over another leaves a null at a key: in a mapping that is taken over whole, with
or without further mappings around the null, as no mapping stands in its place below. -/
inductive LeavesNull : Value → Value → Prop
  | merged {entries changes : List (Value × Value)} {key value : Value}
      (inside : (key, value) ∈ changes) (present : value.isNull = false)
      (below : LeavesNull ((valueAt? entries key).getD .null) value) :
      LeavesNull (.mapping entries) (.mapping changes)
  | taken {base : Value} {changes : List (Value × Value)} {key value : Value}
      (whole : ∀ entries, base ≠ .mapping entries) (inside : (key, value) ∈ changes)
      (absent : value.isNull = true) : LeavesNull base (.mapping changes)
  | within {base : Value} {changes : List (Value × Value)} {key value : Value}
      (whole : ∀ entries, base ≠ .mapping entries) (inside : (key, value) ∈ changes)
      (below : LeavesNull .null value) : LeavesNull base (.mapping changes)

private theorem LeavesNull.isNull_eq_false {base top : Value} (leaves : LeavesNull base top) :
    top.isNull = false := by
  cases leaves <;> rfl

/-- A table stays as it is if what is laid over it says nothing new. -/
theorem overlayEntries_eq_self {entries changes : List (Value × Value)} (table : IsTable entries)
    (nothingNew : ∀ change ∈ changes,
      if change.2.isNull then valueAt? entries change.1 = none
      else ∃ old, valueAt? entries change.1 = some old ∧ overlay old change.2 = old) :
    overlayEntries entries changes = entries := by
  induction changes with
  | nil => rw [overlayEntries]
  | cons change rest ih =>
      obtain ⟨key, value⟩ := change
      obtain ⟨first, others⟩ := List.forall_mem_cons.mp nothingNew
      have same : withChange entries key value = entries := by
        unfold withChange
        split at first
        · next absent =>
            rw [if_pos absent]
            exact removeKey_eq_self (valueAt?_eq_none_iff.mp first)
        · next present =>
            obtain ⟨old, found, same⟩ := first
            rw [if_neg present, if_pos (by rw [hasKey_eq_isSome, found]; rfl)]
            refine (List.map_congr_left fun entry inside => ?_).trans (List.map_id _)
            split
            · next alike =>
                have isOld := table.valueAt?_eq_some_iff.mpr ⟨entry, inside, alike, rfl⟩
                obtain rfl := Option.some.inj (isOld.symm.trans found)
                rw [same, id]
            · rfl
      rw [overlayEntries_cons, same]
      exact ih others

/-- What the changes of a mapping have come to where it was laid over a value: each key has the
change laid over what was below, and is gone if the change is a null and not left. -/
structure Comes (base : Value) (changes entries : List (Value × Value)) : Prop where
  table : IsTable entries
  absent : ∀ change ∈ changes, change.2.isNull = true →
    valueAt? entries change.1 = none ∨ LeavesNull base (.mapping changes)
  present : ∀ change ∈ changes, change.2.isNull = false →
    ∃ below : Value, below.Proper ∧ valueAt? entries change.1 = some (overlay below change.2) ∧
      (LeavesNull below change.2 → LeavesNull base (.mapping changes))

/-- What a key has below, or null, is proper in a proper mapping. -/
theorem proper_valueAt?_getD {entries : List (Value × Value)} {key : Value}
    (proper : (mapping entries).Proper) : ((valueAt? entries key).getD .null).Proper := by
  obtain ⟨table, values⟩ := proper_mapping_iff.mp proper
  cases found : valueAt? entries key with
  | none => exact .null
  | some value =>
      obtain ⟨entry, inside, -, rfl⟩ := table.valueAt?_eq_some_iff.mp found
      exact values entry inside

/-- Whatever a mapping is laid over, its changes come to some entries. -/
theorem exists_comes {base : Value} {changes : List (Value × Value)} (properBase : base.Proper)
    (top : IsTable changes) :
    ∃ entries, overlay base (.mapping changes) = .mapping entries ∧ Comes base changes entries := by
  by_cases merges : ∃ entries, base = .mapping entries
  · obtain ⟨entries, rfl⟩ := merges
    obtain ⟨table, -⟩ := proper_mapping_iff.mp properBase
    refine ⟨_, overlay_mapping entries changes, table.overlayEntries top.proper,
      fun change inside isNull => ?_, fun change inside present => ?_⟩
    · exact .inl (valueAt?_overlayEntries_of_null table top inside isNull)
    · exact ⟨_, proper_valueAt?_getD properBase,
        valueAt?_overlayEntries_of_mem table top inside present, .merged inside present⟩
  · have whole : ∀ entries, base ≠ .mapping entries := fun entries same => merges ⟨entries, same⟩
    refine ⟨changes, overlay_over_not_mapping whole, top, fun change inside isNull => ?_,
      fun change inside _ => ?_⟩
    · exact .inr (.taken whole inside isNull)
    · exact ⟨.null, .null, by rw [overlay_null, top.valueAt?_of_mem inside], .within whole inside⟩

variable {base top : Value}

/-- Where no null was left, overlaying the same value again changes nothing. -/
theorem overlay_settled (properBase : base.Proper) (proper : top.Proper)
    (settled : ¬ LeavesNull base top) : overlay (overlay base top) top = overlay base top := by
  induction proper generalizing base with
  | @mapping changes differ keys _ _ ih =>
      obtain ⟨entries, same, comes⟩ := exists_comes properBase ⟨differ, keys⟩
      rw [same, overlay_mapping, overlayEntries_eq_self comes.table]
      intro change inside
      split
      · next isNull => exact (comes.absent change inside isNull).resolve_right settled
      · next present =>
          rw [Bool.not_eq_true] at present
          obtain ⟨below, properBelow, found, leaves⟩ := comes.present change inside present
          exact ⟨_, found, ih change inside properBelow fun left => settled (leaves left)⟩
  | null | bool | integer | float | text | sequence | tagged =>
      rw [overlay_of_not_mapping (by nofun)]
      exact (overlay_of_not_mapping (by nofun)).symm

/-- Once a value has been laid over another, a second time leaves no null. -/
theorem not_leavesNull_overlay (properBase : base.Proper) (proper : top.Proper) :
    ¬ LeavesNull (overlay base top) top := by
  induction proper generalizing base with
  | @mapping changes differ keys _ _ ih =>
      obtain ⟨entries, same, comes⟩ := exists_comes properBase ⟨differ, keys⟩
      rw [same]
      intro leaves
      cases leaves with
      | merged inside present below =>
          obtain ⟨old, properOld, found, -⟩ := comes.present _ inside present
          rw [found, Option.getD_some] at below
          exact ih _ inside properOld below
      | taken whole | within whole => exact whole entries rfl
  | null | bool | integer | float | text | sequence | tagged => nofun

/-- What a key has in a mapping, it has alike in every mapping that is the same. -/
theorem exists_valueAt?_of_same {entries others : List (Value × Value)} {key value : Value}
    (table : IsTable entries) (other : IsTable others)
    (alike : (mapping entries).same (mapping others) = true)
    (found : valueAt? entries key = some value) :
    ∃ another, valueAt? others key = some another ∧ value.same another = true := by
  obtain ⟨entry, inside, isKey, rfl⟩ := table.valueAt?_eq_some_iff.mp found
  obtain ⟨partner, inOthers, sameKey, sameValue⟩ := (same_mapping_iff.mp alike).2 entry inside
  have partnerKey := same_trans (same_symm (table.proper entry inside) sameKey) isKey
  exact ⟨_, other.valueAt?_eq_some_iff.mpr ⟨partner, inOthers, partnerKey, rfl⟩, sameValue⟩

/-- Where a null was left, overlaying the same value again takes it away. -/
theorem not_same_of_leavesNull (properBase : base.Proper) (proper : top.Proper)
    (leaves : LeavesNull base top) :
    (overlay (overlay base top) top).same (overlay base top) = false := by
  induction leaves with
  | @merged entries changes key value inside present below ih =>
      obtain ⟨table, -⟩ := proper_mapping_iff.mp properBase
      obtain ⟨changesTable, values⟩ := proper_mapping_iff.mp proper
      have once : IsTable (overlayEntries entries changes) :=
        table.overlayEntries changesTable.proper
      have first := valueAt?_overlayEntries_of_mem table changesTable inside present
      have second := valueAt?_overlayEntries_of_mem once changesTable inside present
      by_contra alike
      rw [Bool.not_eq_false, overlay_mapping, overlay_mapping] at alike
      obtain ⟨another, found, same⟩ := exists_valueAt?_of_same
        (once.overlayEntries changesTable.proper) once alike second
      obtain rfl := Option.some.inj (first.symm.trans found)
      have unlike := ih (proper_valueAt?_getD properBase) (values _ inside)
      rw [first, Option.getD_some] at same
      rw [same] at unlike
      cases unlike
  | @taken base changes key value whole inside absent =>
      obtain ⟨table, -⟩ := proper_mapping_iff.mp proper
      rw [overlay_over_not_mapping whole, overlay_mapping]
      by_contra alike
      rw [Bool.not_eq_false] at alike
      have again := table.overlayEntries table.proper
      have twice : (mapping (overlayEntries changes changes)).Proper := by
        simpa using proper.overlay proper
      obtain ⟨another, found, -⟩ := exists_valueAt?_of_same table again (same_symm twice alike)
        (table.valueAt?_of_mem inside)
      cases (valueAt?_overlayEntries_of_null table table inside absent).symm.trans found
  | @within base changes key value whole inside below ih =>
      obtain ⟨table, values⟩ := proper_mapping_iff.mp proper
      rw [overlay_over_not_mapping whole, overlay_mapping]
      by_contra alike
      rw [Bool.not_eq_false] at alike
      have first := table.valueAt?_of_mem inside
      have second := valueAt?_overlayEntries_of_mem table table inside below.isNull_eq_false
      obtain ⟨another, found, same⟩ := exists_valueAt?_of_same
        (table.overlayEntries table.proper) table alike second
      obtain rfl := Option.some.inj (first.symm.trans found)
      have unlike := ih .null (values _ inside)
      rw [overlay_null] at unlike
      rw [first, Option.getD_some, unlike] at same
      cases same

/-- **Overlaying the same value again takes away the nulls that were left, and no more.** It changes
nothing, neither the entries nor their order, exactly if none was left by the first time, and from
the second time on it never changes anything. -/
theorem overlay_again (properBase : base.Proper) (proper : top.Proper) :
    let once := overlay base top
    let twice := overlay once top
    (twice = once ↔ ¬ LeavesNull base top) ∧
      (twice.same once = true ↔ ¬ LeavesNull base top) ∧ overlay twice top = twice := by
  intro once twice
  have settled : ¬ LeavesNull base top → twice = once := overlay_settled properBase proper
  have unsettled : twice.same once = true → ¬ LeavesNull base top := by
    intro alike leaves
    have unlike : twice.same once = false := not_same_of_leavesNull properBase proper leaves
    rw [alike] at unlike
    cases unlike
  refine ⟨⟨fun same => unsettled ?_, settled⟩, ⟨unsettled, fun none => ?_⟩, ?_⟩
  · rw [same]
    exact same_refl once
  · rw [settled none]
    exact same_refl once
  · exact overlay_settled (properBase.overlay proper) proper
      (not_leavesNull_overlay properBase proper)

/-- A mapping with a value at a key within a key. -/
def nested (value : Value) : Value :=
  .mapping [(.text "k", .mapping [(.text "a", value)])]

/-- Nesting a proper value gives a proper one. -/
theorem nested_proper {value : Value} (proper : value.Proper) : (nested value).Proper := by
  have single : ∀ (key : String) {inner : Value}, inner.Proper →
      (mapping [(.text key, inner)]).Proper := fun key inner properInner =>
    .mapping (List.pairwise_singleton _ _) (List.forall_mem_singleton.mpr (.text key))
      (List.forall_mem_singleton.mpr properInner)
  exact single "k" (single "a" proper)

/-- Laid over an empty mapping a null within is left until the second time. Laid over a mapping with
its key it takes that away at once. -/
theorem overlay_again_of_null_within :
    LeavesNull (.mapping []) (nested .null) ∧
      overlay (overlay (overlay (.mapping []) (nested .null)) (nested .null)) (nested .null) =
        overlay (overlay (.mapping []) (nested .null)) (nested .null) ∧
      overlay (overlay (nested (.bool true)) (nested .null)) (nested .null) =
        overlay (nested (.bool true)) (nested .null) := by
  obtain ⟨-, unchanged, thrice⟩ := overlay_again (.mapping .nil nofun nofun) (nested_proper .null)
  obtain ⟨same, unchangedBelow, -⟩ :=
    overlay_again (nested_proper (.bool true)) (nested_proper .null)
  refine ⟨?_, thrice, same.mpr (unchangedBelow.mp (by decide))⟩
  by_contra none
  exact absurd (unchanged.mpr none) (by decide)

/-- Overlaying the same value again is not always without effect. -/
theorem overlay_again_not_always_same :
    ¬ ∀ base top : Value, base.Proper → top.Proper →
      (overlay (overlay base top) top).same (overlay base top) = true := by
  intro claim
  have again := claim (.mapping []) (nested .null) (.mapping .nil nofun nofun) (nested_proper .null)
  exact absurd again (by decide)

end FlowCheck.Yaml
