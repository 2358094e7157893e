import FlowCheck.Proofs.Yaml.Sameness
import FlowCheck.Yaml.Overlay
import Mathlib.Data.List.Pairwise

/-! # What overlaying does to a key

Overlaying a mapping changes the entries of the one below one key at a time. Each change can be said
of the value that a key has, whatever the place of its entry, and from this the value of every key
after all changes follows. That value is the overlay of the two values that the key had before.
-/

namespace FlowCheck.Yaml

/-! ## Tables -/

/-- The value of a key among entries. -/
def valueAt? (entries : List (Value × Value)) (key : Value) : Option Value :=
  (entries.find? fun entry => entry.1.same key).map (·.2)

/-- Entries that say at most one thing of each key. -/
structure IsTable (entries : List (Value × Value)) : Prop where
  differ : KeysDiffer entries
  proper : ∀ entry ∈ entries, entry.1.Proper

/-- The keys of two entries differ from either side. -/
def Apart (entry other : Value × Value) : Prop :=
  entry.1.same other.1 = false ∧ other.1.same entry.1 = false

instance : Std.Symm Apart :=
  ⟨fun _ _ apart => ⟨apart.2, apart.1⟩⟩

/-- A mapping is proper exactly if it has each key once and its values are proper. -/
theorem Value.proper_mapping_iff {entries : List (Value × Value)} :
    (Value.mapping entries).Proper ↔ IsTable entries ∧ ∀ entry ∈ entries, entry.2.Proper := by
  constructor
  · rintro ⟨⟩
    next differ keys values => exact ⟨⟨differ, keys⟩, values⟩
  · rintro ⟨⟨differ, keys⟩, values⟩
    exact .mapping differ keys values

section Tables

variable {entries : List (Value × Value)} {key other value : Value}

/-- Nothing is found at a key that no entry has. -/
theorem valueAt?_eq_none_iff :
    valueAt? entries key = none ↔ ∀ entry ∈ entries, entry.1.same key = false := by
  simp [valueAt?]

private theorem hasKey_iff :
    hasKey entries key = true ↔ ∃ entry ∈ entries, entry.1.same key = true := by
  rw [hasKey, List.any_eq_true]

/-- A key is there exactly if something is found at it. -/
theorem hasKey_eq_isSome : hasKey entries key = (valueAt? entries key).isSome := by
  rw [Bool.eq_iff_iff, hasKey_iff, valueAt?, Option.isSome_map, List.find?_isSome]

namespace IsTable

/-- The keys of a table are apart. -/
theorem apart (table : IsTable entries) : entries.Pairwise Apart := by
  refine table.differ.imp_of_mem fun {entry later} inside behind different => ⟨different, ?_⟩
  by_contra alike
  rw [Bool.not_eq_false] at alike
  rw [Value.same_symm (table.proper later behind) alike] at different
  cases different

private theorem of_apart (apart : entries.Pairwise Apart)
    (proper : ∀ entry ∈ entries, entry.1.Proper) : IsTable entries :=
  ⟨apart.imp And.left, proper⟩

/-- A key has one entry at most. -/
theorem eq_of_same (table : IsTable entries) {entry another : Value × Value}
    (inside : entry ∈ entries) (insideToo : another ∈ entries) (alike : entry.1.same key = true)
    (alikeToo : another.1.same key = true) : entry = another := by
  by_contra different
  have unlike := (table.apart.forall inside insideToo different).1
  rw [Value.same_trans alike (Value.same_symm (table.proper another insideToo) alikeToo)] at unlike
  cases unlike

/-- What is found at a key of a table is the value of an entry that has it. -/
theorem valueAt?_eq_some_iff (table : IsTable entries) :
    valueAt? entries key = some value ↔
      ∃ entry ∈ entries, entry.1.same key = true ∧ entry.2 = value := by
  rw [valueAt?, Option.map_eq_some_iff]
  constructor
  · rintro ⟨entry, found, rfl⟩
    have alike : entry.1.same key = true := by simpa using List.find?_some found
    exact ⟨entry, List.mem_of_find?_eq_some found, alike, rfl⟩
  · rintro ⟨entry, inside, alike, rfl⟩
    obtain ⟨first, found⟩ : ∃ first, entries.find? (fun entry => entry.1.same key) = some first :=
      Option.isSome_iff_exists.mp (List.find?_isSome.mpr ⟨entry, inside, alike⟩)
    have isFirst : first.1.same key = true := by simpa using List.find?_some found
    rw [table.eq_of_same (List.mem_of_find?_eq_some found) inside isFirst alike] at found
    exact ⟨entry, found, rfl⟩

/-- Each entry of a table is found at its key. -/
theorem valueAt?_of_mem (table : IsTable entries) {entry : Value × Value}
    (inside : entry ∈ entries) : valueAt? entries entry.1 = some entry.2 :=
  table.valueAt?_eq_some_iff.mpr ⟨entry, inside, Value.same_refl _, rfl⟩

end IsTable

end Tables

/-! ## One change -/

/-- Entries with one change: a null takes the key away, another value is laid over the one that the
key has, or comes last. -/
def withChange (entries : List (Value × Value)) (key value : Value) : List (Value × Value) :=
  if value.isNull then removeKey key entries
  else if hasKey entries key then
    entries.map fun entry => if entry.1.same key then (entry.1, overlay entry.2 value) else entry
  else entries ++ [(key, value)]

section Changes

variable {entries : List (Value × Value)} {key other value : Value}

/-- Changes are made one after the other. -/
theorem overlayEntries_cons (rest : List (Value × Value)) :
    overlayEntries entries ((key, value) :: rest) =
      overlayEntries (withChange entries key value) rest := by
  rw [overlayEntries, withChange]

/-- What is not a mapping replaces whatever it is laid over. -/
theorem overlay_of_not_mapping {base top : Value} (scalar : ∀ changes, top ≠ .mapping changes) :
    overlay base top = top := by
  cases top with
  | mapping changes => exact (scalar changes rfl).elim
  | _ => simp [overlay]

/-- What is not a mapping is replaced by whatever is laid over it. -/
theorem overlay_over_not_mapping {base top : Value} (scalar : ∀ entries, base ≠ .mapping entries) :
    overlay base top = top := by
  cases top with
  | mapping changes =>
      cases base with
      | mapping entries => exact (scalar entries rfl).elim
      | _ => simp [overlay]
  | _ => simp [overlay]

@[simp]
theorem overlay_null (top : Value) : overlay .null top = top :=
  overlay_over_not_mapping nofun

@[simp]
theorem overlay_mapping (entries changes : List (Value × Value)) :
    overlay (.mapping entries) (.mapping changes) = .mapping (overlayEntries entries changes) := by
  rw [overlay]

/-- What is laid over another value stays as it is, or is a mapping before and after. -/
theorem overlay_cases (base value : Value) :
    overlay base value = value ∨
      ∃ below above, value = .mapping below ∧ overlay base value = .mapping above := by
  cases value with
  | mapping changes =>
      cases base with
      | mapping entries => exact .inr ⟨changes, _, rfl, overlay_mapping entries changes⟩
      | _ => exact .inl (overlay_over_not_mapping nofun)
  | _ => exact .inl (overlay_of_not_mapping nofun)

/-- Removing a key that no entry has changes nothing. -/
theorem removeKey_eq_self (absent : ∀ entry ∈ entries, entry.1.same key = false) :
    removeKey key entries = entries := by
  induction entries with
  | nil => rfl
  | cons entry rest ih =>
      obtain ⟨unlike, others⟩ := List.forall_mem_cons.mp absent
      rw [removeKey, unlike, if_neg Bool.false_ne_true, ih others]

private theorem rotated_perm (rest : List (Value × Value)) :
    (match rest.getLast? with
      | some last => last :: rest.dropLast
      | none => []).Perm rest := by
  rcases List.eq_nil_or_concat rest with rfl | ⟨before, last, rfl⟩
  · exact .nil
  · rw [List.concat_eq_append, List.getLast?_concat, List.dropLast_concat]
    exact (List.perm_append_singleton last before).symm

/-- Removing a key leaves the entries of the other keys, perhaps in another order. -/
theorem removeKey_perm (table : IsTable entries) (key : Value) :
    (removeKey key entries).Perm (entries.filter fun entry => !entry.1.same key) := by
  induction entries with
  | nil => exact .nil
  | cons entry rest ih =>
      obtain ⟨alone, apart⟩ := List.pairwise_cons.mp table.apart
      have properRest : ∀ later ∈ rest, later.1.Proper :=
        fun later inside => table.proper later (List.mem_cons_of_mem _ inside)
      rw [removeKey]
      by_cases alike : entry.1.same key = true
      · -- The entries behind all have other keys and stay.
        have others : ∀ later ∈ rest, (!later.1.same key) = true := by
          intro later inside
          by_contra again
          rw [Bool.not_eq_true', Bool.not_eq_false] at again
          have unlike := (alone later inside).1
          rw [Value.same_trans alike (Value.same_symm (properRest later inside) again)] at unlike
          cases unlike
        rw [if_pos alike, List.filter_cons_of_neg (by simp [alike]), List.filter_eq_self.mpr others]
        exact rotated_perm rest
      · rw [if_neg alike, List.filter_cons_of_pos (by simpa using alike)]
        exact (ih (.of_apart apart properRest)).cons entry

/-- A table without some key is a table. -/
theorem IsTable.removeKey (table : IsTable entries) (key : Value) :
    IsTable (removeKey key entries) := by
  have perm := removeKey_perm table key
  refine .of_apart ((table.apart.filter _).perm perm.symm fun apart => symm apart)
    fun entry inside => ?_
  exact table.proper entry (List.mem_of_mem_filter (perm.mem_iff.mp inside))

/-- Removing a key leaves the entries of the other keys. -/
theorem mem_removeKey_iff (table : IsTable entries) {entry : Value × Value} :
    entry ∈ removeKey key entries ↔ entry ∈ entries ∧ entry.1.same key = false := by
  rw [(removeKey_perm table key).mem_iff, List.mem_filter, Bool.not_eq_true']

private theorem overlaid_key (entry : Value × Value) :
    (if entry.1.same key then (entry.1, overlay entry.2 value) else entry).1 = entry.1 := by
  split <;> rfl

/-- A change leaves a table a table. -/
theorem IsTable.withChange (table : IsTable entries) (proper : key.Proper) (value : Value) :
    IsTable (withChange entries key value) := by
  unfold Yaml.withChange
  split
  · exact table.removeKey key
  · next present =>
      split
      · constructor
        · have differ := table.differ
          rw [KeysDiffer] at differ ⊢
          simpa only [List.pairwise_map, overlaid_key] using differ
        · intro changed inside
          obtain ⟨entry, member, rfl⟩ := List.mem_map.mp inside
          rw [overlaid_key]
          exact table.proper entry member
      · next absent =>
          have others : ∀ entry ∈ entries, entry.1.same key = false := by
            simpa [hasKey] using absent
          constructor
          · refine List.pairwise_append.mpr ⟨table.differ, List.pairwise_singleton _ _, ?_⟩
            intro entry inside added isAdded
            rw [List.mem_singleton.mp isAdded]
            exact others entry inside
          · intro entry inside
            rcases List.mem_append.mp inside with old | added
            · exact table.proper entry old
            · rw [List.mem_singleton.mp added]
              exact proper

private theorem valueAt?_congr (proper : key.Proper) (alike : key.same other = true) :
    valueAt? entries key = valueAt? entries other := by
  have same : ∀ entry : Value × Value, entry.1.same key = entry.1.same other := by
    intro entry
    rw [Bool.eq_iff_iff]
    exact ⟨fun found => Value.same_trans found alike,
      fun found => Value.same_trans found (Value.same_symm proper alike)⟩
  simp only [valueAt?, same]

private theorem valueAt?_append (entries : List (Value × Value)) (key value other : Value) :
    valueAt? (entries ++ [(key, value)]) other =
      (valueAt? entries other).or (if key.same other then some value else none) := by
  rw [valueAt?, List.find?_append, Option.map_or, ← valueAt?, List.find?_singleton]
  split <;> rfl

/-- A change gives its key the value that it says, laid over the value before. -/
theorem valueAt?_withChange_self (table : IsTable entries) (key value : Value) :
    valueAt? (withChange entries key value) key =
      if value.isNull then none else some (overlay ((valueAt? entries key).getD .null) value) := by
  unfold Yaml.withChange
  split
  · rw [valueAt?_eq_none_iff]
    exact fun entry inside => ((mem_removeKey_iff table).mp inside).2
  · split
    · next present =>
        rw [hasKey_eq_isSome, Option.isSome_iff_exists] at present
        obtain ⟨old, found⟩ := present
        rw [found, Option.getD_some]
        rw [valueAt?, Option.map_eq_some_iff] at found
        obtain ⟨entry, found, rfl⟩ := found
        have alike : entry.1.same key = true := by simpa using List.find?_some found
        rw [valueAt?, List.find?_map]
        simp only [Function.comp_def, overlaid_key, found, Option.map_some, alike, ↓reduceIte]
    · next absent =>
        have missing : valueAt? entries key = none := by
          simpa [hasKey_eq_isSome] using absent
        rw [valueAt?_append, missing, Option.none_or, if_pos (Value.same_refl key),
          Option.getD_none, overlay_null]

/-- A change leaves other keys alone. -/
theorem valueAt?_withChange_of_unlike (table : IsTable entries) (value : Value)
    (unlike : key.same other = false) :
    valueAt? (withChange entries key value) other = valueAt? entries other := by
  have apart : ∀ entry ∈ entries, entry.1.same other = true → entry.1.same key = false := by
    intro entry inside alike
    by_contra again
    rw [Bool.not_eq_false] at again
    rw [Value.same_trans (Value.same_symm (table.proper entry inside) again) alike] at unlike
    cases unlike
  unfold Yaml.withChange
  split
  · refine Option.ext fun result => ?_
    rw [(table.removeKey key).valueAt?_eq_some_iff, table.valueAt?_eq_some_iff]
    simp only [mem_removeKey_iff table]
    constructor
    · rintro ⟨entry, ⟨inside, -⟩, found⟩
      exact ⟨entry, inside, found⟩
    · rintro ⟨entry, inside, alike, isResult⟩
      exact ⟨entry, ⟨inside, apart entry inside alike⟩, alike, isResult⟩
  · split
    · rw [valueAt?, List.find?_map, valueAt?]
      simp only [Function.comp_def, overlaid_key]
      cases found : entries.find? fun entry => entry.1.same other with
      | none => rfl
      | some entry =>
          have unlikeToo := apart entry (List.mem_of_find?_eq_some found)
            (by simpa using List.find?_some found)
          simp [unlikeToo]
    · rw [valueAt?_append, unlike]
      simp

end Changes

/-! ## All changes -/

/-- A table with changes is a table. -/
theorem IsTable.overlayEntries {entries changes : List (Value × Value)} (table : IsTable entries)
    (keys : ∀ change ∈ changes, change.1.Proper) : IsTable (overlayEntries entries changes) := by
  induction changes generalizing entries with
  | nil => rwa [Yaml.overlayEntries]
  | cons change rest ih =>
      rw [List.forall_mem_cons] at keys
      rw [overlayEntries_cons]
      exact ih (table.withChange keys.1 change.2) keys.2

/-- A key has, after one table was laid over another, what both say of it: nothing if the one on top
has a null there, and otherwise the value on top, if there is one, laid over the value below. -/
theorem valueAt?_overlayEntries {entries changes : List (Value × Value)} (table : IsTable entries)
    (top : IsTable changes) {key : Value} :
    valueAt? (overlayEntries entries changes) key =
      match valueAt? changes key with
      | none => valueAt? entries key
      | some value =>
        if value.isNull then none
        else some (overlay ((valueAt? entries key).getD .null) value) := by
  induction changes generalizing entries with
  | nil => rw [overlayEntries]; rfl
  | cons change rest ih =>
      obtain ⟨changed, value⟩ := change
      have proper : changed.Proper := top.proper _ List.mem_cons_self
      obtain ⟨alone, apart⟩ := List.pairwise_cons.mp top.apart
      have topRest : IsTable rest :=
        .of_apart apart fun entry inside => top.proper entry (List.mem_cons_of_mem _ inside)
      rw [overlayEntries_cons, ih (table.withChange proper value) topRest]
      by_cases alike : changed.same key = true
      · -- No later change is about the same key.
        have last : valueAt? rest key = none := by
          rw [valueAt?_eq_none_iff]
          intro entry inside
          by_contra again
          rw [Bool.not_eq_false] at again
          have unlike := (alone entry inside).1
          rw [Value.same_trans alike (Value.same_symm (topRest.proper entry inside) again)]
            at unlike
          cases unlike
        have here : valueAt? ((changed, value) :: rest) key = some value := by
          simp [valueAt?, alike]
        rw [last, here, ← valueAt?_congr proper alike, valueAt?_withChange_self table,
          ← valueAt?_congr proper alike]
      · rw [Bool.not_eq_true] at alike
        have elsewhere : valueAt? ((changed, value) :: rest) key = valueAt? rest key := by
          simp [valueAt?, alike]
        rw [elsewhere, valueAt?_withChange_of_unlike table value alike]

/-- The value of a change that is not null is laid over what its key had. -/
theorem valueAt?_overlayEntries_of_mem {entries changes : List (Value × Value)}
    (table : IsTable entries) (top : IsTable changes) {change : Value × Value}
    (inside : change ∈ changes) (present : change.2.isNull = false) :
    valueAt? (overlayEntries entries changes) change.1 =
      some (overlay ((valueAt? entries change.1).getD .null) change.2) := by
  rw [valueAt?_overlayEntries table top, top.valueAt?_of_mem inside]
  exact if_neg (by rw [present]; exact Bool.false_ne_true)

/-- A null takes its key away. -/
theorem valueAt?_overlayEntries_of_null {entries changes : List (Value × Value)}
    (table : IsTable entries) (top : IsTable changes) {change : Value × Value}
    (inside : change ∈ changes) (absent : change.2.isNull = true) :
    valueAt? (overlayEntries entries changes) change.1 = none := by
  rw [valueAt?_overlayEntries table top, top.valueAt?_of_mem inside]
  exact if_pos absent

/-- A change leaves a mapping proper if what it says is, alone and laid over a proper value. -/
theorem proper_withChange {entries : List (Value × Value)} {key value : Value}
    (base : (Value.mapping entries).Proper) (properKey : key.Proper) (proper : value.Proper)
    (laid : ∀ {below : Value}, below.Proper → (overlay below value).Proper) :
    (Value.mapping (withChange entries key value)).Proper := by
  rw [Value.proper_mapping_iff] at base ⊢
  obtain ⟨table, values⟩ := base
  refine ⟨table.withChange properKey value, ?_⟩
  unfold withChange
  split
  · exact fun entry inside => values entry ((mem_removeKey_iff table).mp inside).1
  · split
    · intro changed inside
      obtain ⟨entry, member, rfl⟩ := List.mem_map.mp inside
      split
      · exact laid (values entry member)
      · exact values entry member
    · intro entry inside
      rcases List.mem_append.mp inside with old | added
      · exact values entry old
      · rw [List.mem_singleton.mp added]
        exact proper

/-- A proper mapping stays proper under changes that keep what they are laid over proper. -/
theorem proper_overlayEntries {entries changes : List (Value × Value)}
    (base : (Value.mapping entries).Proper) (keys : ∀ change ∈ changes, change.1.Proper)
    (values : ∀ change ∈ changes, change.2.Proper)
    (laid : ∀ change ∈ changes, ∀ {below : Value}, below.Proper →
      (overlay below change.2).Proper) :
    (Value.mapping (overlayEntries entries changes)).Proper := by
  induction changes generalizing entries with
  | nil => rwa [overlayEntries]
  | cons change rest ih =>
      rw [List.forall_mem_cons] at keys values laid
      rw [overlayEntries_cons]
      exact ih (proper_withChange base keys.1 values.1 laid.1) keys.2 values.2 laid.2

/-- Laid over each other, proper values are proper. -/
theorem Value.Proper.overlay {base top : Value} (properBase : base.Proper) (proper : top.Proper) :
    (overlay base top).Proper := by
  induction proper generalizing base with
  | @mapping changes differ keys values _ ih =>
      by_cases below : ∃ entries, base = .mapping entries
      · obtain ⟨entries, rfl⟩ := below
        rw [overlay_mapping]
        exact proper_overlayEntries properBase keys values ih
      · rw [overlay_over_not_mapping fun entries same => below ⟨entries, same⟩]
        exact .mapping differ keys values
  | null | bool | integer | float | text | sequence | tagged =>
      rw [overlay_of_not_mapping (by nofun)]
      constructor
      all_goals assumption

end FlowCheck.Yaml
