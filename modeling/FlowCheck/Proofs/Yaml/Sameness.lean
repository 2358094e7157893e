import FlowCheck.Yaml.Value
import Mathlib.Data.List.Forall2

/-! # Sameness of keys

Two keys are the same whatever the order of the entries of a mapping in them. The test for that only
looks for each entry of one mapping among those of the other. Between mappings of one length whose
keys are all different this comes to the same from either side, so sameness is an equivalence
between values in which every mapping has different keys, as every mapping that is read has.
-/

namespace FlowCheck.Yaml

/-- Entries whose keys are all different. -/
def KeysDiffer (entries : List (Value × Value)) : Prop :=
  entries.Pairwise fun entry later => entry.1.same later.1 = false

namespace Value

/-- A claim about all values follows from the claim about their parts. -/
@[elab_as_elim]
theorem induction_on_parts {motive : Value → Prop} (null : motive .null)
    (bool : ∀ value, motive (.bool value)) (integer : ∀ value, motive (.integer value))
    (float : ∀ value, motive (.float value)) (text : ∀ content, motive (.text content))
    (sequence : ∀ items, (∀ item ∈ items, motive item) → motive (.sequence items))
    (mapping : ∀ entries, (∀ entry ∈ entries, motive entry.1 ∧ motive entry.2) →
      motive (.mapping entries))
    (tagged : ∀ tag value, motive value → motive (.tagged tag value)) : ∀ value, motive value
  | .null => null
  | .bool value => bool value
  | .integer value => integer value
  | .float value => float value
  | .text content => text content
  | .sequence items => sequence items fun item _inside =>
      induction_on_parts null bool integer float text sequence mapping tagged item
  | .mapping entries => mapping entries fun entry _inside =>
      ⟨induction_on_parts null bool integer float text sequence mapping tagged entry.1,
        induction_on_parts null bool integer float text sequence mapping tagged entry.2⟩
  | .tagged tag value => tagged tag value
      (induction_on_parts null bool integer float text sequence mapping tagged value)
termination_by value => sizeOf value
decreasing_by
  · have smaller := List.sizeOf_lt_of_mem _inside
    rw [Value.sequence.sizeOf_spec]
    omega
  · have smaller := List.sizeOf_lt_of_mem _inside
    have parts : sizeOf entry = 1 + sizeOf entry.1 + sizeOf entry.2 := rfl
    rw [Value.mapping.sizeOf_spec]
    omega
  · have smaller := List.sizeOf_lt_of_mem _inside
    have parts : sizeOf entry = 1 + sizeOf entry.1 + sizeOf entry.2 := rfl
    rw [Value.mapping.sizeOf_spec]
    omega
  · rw [Value.tagged.sizeOf_spec]
    omega

/-- A value in which every mapping has keys that are all different. -/
inductive Proper : Value → Prop
  | null : Proper .null
  | bool (value : Bool) : Proper (.bool value)
  | integer (value : Int) : Proper (.integer value)
  | float (value : Binary64) : Proper (.float value)
  | text (content : String) : Proper (.text content)
  | sequence {items : List Value} (inside : ∀ item ∈ items, Proper item) :
      Proper (.sequence items)
  | mapping {entries : List (Value × Value)} (differ : KeysDiffer entries)
      (keys : ∀ entry ∈ entries, Proper entry.1) (values : ∀ entry ∈ entries, Proper entry.2) :
      Proper (.mapping entries)
  | tagged {tag : String} {value : Value} (inside : Proper value) : Proper (.tagged tag value)

/-! ## The test, in words -/

private theorem sameItems_iff {items others : List Value} :
    sameItems items others = true ↔
      List.Forall₂ (fun item other => item.same other = true) items others := by
  induction items generalizing others with
  | nil => cases others <;> simp [sameItems]
  | cons item rest ih => cases others <;> simp [sameItems, ih]

private theorem allIn_iff {entries others : List (Value × Value)} :
    allIn entries others = true ↔
      ∀ entry ∈ entries, ∃ other ∈ others,
        entry.1.same other.1 = true ∧ entry.2.same other.2 = true := by
  induction entries with
  | nil => simp [allIn]
  | cons entry rest ih =>
      rw [allIn, Bool.and_eq_true, ih, List.forall_mem_cons]
      simp only [List.any_eq_true, Bool.and_eq_true]

/-- A scalar of a kind whose scalars are the same only as themselves, as all kinds but floats. -/
def IsExact : Value → Prop
  | null | bool _ | integer _ | text _ => True
  | float _ | sequence _ | mapping _ | tagged .. => False

/-- An exact value is the same as itself only. -/
theorem eq_of_same {value other : Value} (exact : value.IsExact)
    (alike : value.same other = true) : other = value := by
  cases value with
  | null | bool | integer | text => cases other <;> simp_all [same]
  | float | sequence | mapping | tagged => cases exact

/-- Only a real number is the same as a real number, and it is equal to it. -/
theorem exists_of_same_float {number : Binary64} {value : Value}
    (alike : (float number).same value = true) :
    ∃ other, value = float other ∧ number.equal other = true := by
  cases value with
  | float other => exact ⟨other, rfl, alike⟩
  | _ => cases alike

/-- Only a sequence is the same as a sequence, item by item. -/
theorem exists_of_same_sequence {items : List Value} {value : Value}
    (alike : (sequence items).same value = true) :
    ∃ others, value = sequence others ∧
      List.Forall₂ (fun item other => item.same other = true) items others := by
  cases value with
  | sequence others => exact ⟨others, rfl, sameItems_iff.mp alike⟩
  | _ => cases alike

/-- Mappings are the same exactly if they have as many entries and each entry of one has the same in
the other. -/
theorem same_mapping_iff {entries others : List (Value × Value)} :
    (mapping entries).same (mapping others) = true ↔
      entries.length = others.length ∧ ∀ entry ∈ entries, ∃ other ∈ others,
        entry.1.same other.1 = true ∧ entry.2.same other.2 = true := by
  rw [same, Bool.and_eq_true, beq_iff_eq, allIn_iff]

/-- Only a mapping is the same as a mapping. -/
theorem exists_of_same_mapping {entries : List (Value × Value)} {value : Value}
    (alike : (mapping entries).same value = true) :
    ∃ others, value = mapping others ∧ entries.length = others.length ∧
      ∀ entry ∈ entries, ∃ other ∈ others,
        entry.1.same other.1 = true ∧ entry.2.same other.2 = true := by
  cases value with
  | mapping others => exact ⟨others, rfl, same_mapping_iff.mp alike⟩
  | _ => cases alike

/-- Only a tagged value is the same as a tagged value, and it has the same tag. -/
theorem exists_of_same_tagged {tag : String} {inner value : Value}
    (alike : (tagged tag inner).same value = true) :
    ∃ other inside, value = tagged other inside ∧ tagName tag = tagName other ∧
      inner.same inside = true := by
  cases value with
  | tagged other inside =>
      rw [same, Bool.and_eq_true, beq_iff_eq] at alike
      exact ⟨other, inside, rfl, alike⟩
  | _ => cases alike

/-! ## An equivalence -/

private theorem equal_symm {first second : Binary64} (alike : first.equal second = true) :
    second.equal first = true := by
  cases first <;> cases second <;> grind [Binary64.equal]

private theorem equal_trans {first second third : Binary64} (left : first.equal second = true)
    (right : second.equal third = true) : first.equal third = true := by
  cases first <;> cases second <;> cases third <;> grind [Binary64.equal]

@[simp]
theorem same_refl (value : Value) : value.same value = true := by
  induction value using induction_on_parts with
  | null => rfl
  | bool value => simp [same]
  | integer value => simp [same]
  | float value => cases value <;> simp [same, Binary64.equal]
  | text content => simp [same]
  | sequence items ih =>
      rw [same, sameItems_iff, List.forall₂_same]
      exact ih
  | mapping entries ih =>
      exact same_mapping_iff.mpr ⟨rfl, fun entry inside => ⟨entry, inside, ih entry inside⟩⟩
  | tagged tag value ih => simp [same, ih]

/-- What is the same as the same is the same. -/
theorem same_trans {first second third : Value} (left : first.same second = true)
    (right : second.same third = true) : first.same third = true := by
  induction first using induction_on_parts generalizing second third with
  | null | bool | integer | text =>
      obtain rfl := eq_of_same (by trivial) left
      exact right
  | float number =>
      obtain ⟨other, rfl, equal⟩ := exists_of_same_float left
      obtain ⟨last, rfl, equalAgain⟩ := exists_of_same_float right
      exact equal_trans equal equalAgain
  | sequence items ih =>
      obtain ⟨others, rfl, itemwise⟩ := exists_of_same_sequence left
      obtain ⟨more, rfl, further⟩ := exists_of_same_sequence right
      rw [same, sameItems_iff]
      clear left right
      induction itemwise generalizing more with
      | nil => exact further
      | cons alike _ step =>
          cases further with
          | cons alikeAgain rest =>
              exact .cons (ih _ List.mem_cons_self alike alikeAgain)
                (step (fun item inside => ih item (List.mem_cons_of_mem _ inside)) _ rest)
  | mapping entries ih =>
      obtain ⟨others, rfl, length, found⟩ := exists_of_same_mapping left
      obtain ⟨more, rfl, further, foundAgain⟩ := exists_of_same_mapping right
      refine same_mapping_iff.mpr ⟨length.trans further, fun entry inside => ?_⟩
      obtain ⟨other, inOthers, key, value⟩ := found entry inside
      obtain ⟨last, inMore, keyAgain, valueAgain⟩ := foundAgain other inOthers
      exact ⟨last, inMore, (ih entry inside).1 key keyAgain, (ih entry inside).2 value valueAgain⟩
  | tagged tag value ih =>
      obtain ⟨other, inside, rfl, name, alike⟩ := exists_of_same_tagged left
      obtain ⟨last, inner, rfl, nameAgain, alikeAgain⟩ := exists_of_same_tagged right
      simp [same, name, nameAgain, ih alike alikeAgain]

/-- Between as many entries on both sides, if each entry on the left has one of its own on the
right, then each on the right is that of one on the left. -/
private theorem exists_left_of_forall {α β : Type} {relates : α → β → Prop} {left : List α}
    {right : List β} (length : left.length = right.length)
    (found : ∀ entry ∈ left, ∃ other ∈ right, relates entry other)
    (apart : left.Pairwise fun entry later =>
      ∀ other, relates entry other → ¬ relates later other) :
    ∀ other ∈ right, ∃ entry ∈ left, relates entry other := by
  induction left generalizing right with
  | nil =>
      rw [List.eq_nil_of_length_eq_zero length.symm]
      nofun
  | cons entry rest ih =>
      obtain ⟨alone, apart⟩ := List.pairwise_cons.mp apart
      obtain ⟨own, inRight, related⟩ := found entry List.mem_cons_self
      obtain ⟨before, behind, rfl⟩ := List.append_of_mem inRight
      have fewer : rest.length = (before ++ behind).length := by
        simp only [List.length_cons, List.length_append] at length ⊢
        omega
      have stillFound : ∀ later ∈ rest, ∃ other ∈ before ++ behind, relates later other := by
        intro later inRest
        obtain ⟨other, member, relatedLater⟩ := found later (List.mem_cons_of_mem _ inRest)
        refine ⟨other, ?_, relatedLater⟩
        rcases List.mem_append.mp member with earlier | taken
        · exact List.mem_append_left _ earlier
        · rcases List.mem_cons.mp taken with rfl | later'
          · exact (alone later inRest other related relatedLater).elim
          · exact List.mem_append_right _ later'
      intro other member
      rw [List.mem_append, List.mem_cons] at member
      have covered := ih fewer stillFound apart
      rcases member with earlier | rfl | further
      · obtain ⟨later, inRest, relatedLater⟩ := covered other (List.mem_append_left _ earlier)
        exact ⟨later, List.mem_cons_of_mem _ inRest, relatedLater⟩
      · exact ⟨entry, List.mem_cons_self, related⟩
      · obtain ⟨later, inRest, relatedLater⟩ := covered other (List.mem_append_right _ further)
        exact ⟨later, List.mem_cons_of_mem _ inRest, relatedLater⟩

/-- A proper value is the same as what is the same as it. -/
theorem same_symm {first second : Value} (proper : first.Proper)
    (alike : first.same second = true) : second.same first = true := by
  induction proper generalizing second with
  | null | bool | integer | text =>
      obtain rfl := eq_of_same (by trivial) alike
      exact alike
  | float number =>
      obtain ⟨other, rfl, equal⟩ := exists_of_same_float alike
      exact equal_symm equal
  | sequence inside ih =>
      obtain ⟨others, rfl, itemwise⟩ := exists_of_same_sequence alike
      rw [same, sameItems_iff]
      clear alike
      induction itemwise with
      | nil => exact .nil
      | cons alike _ step =>
          exact .cons (ih _ List.mem_cons_self alike)
            (step (fun item member => inside item (List.mem_cons_of_mem _ member))
              fun item member => ih item (List.mem_cons_of_mem _ member))
  | @mapping entries differ keys values ihKeys ihValues =>
      obtain ⟨others, rfl, length, found⟩ := exists_of_same_mapping alike
      -- Two entries with the key of one entry on the other side would have the same key.
      have apart : entries.Pairwise fun entry later => ∀ other : Value × Value,
          entry.1.same other.1 = true ∧ entry.2.same other.2 = true →
            ¬ (later.1.same other.1 = true ∧ later.2.same other.2 = true) := by
        refine differ.imp_of_mem fun {entry later} _ inside different other alike again => ?_
        rw [same_trans alike.1 (ihKeys later inside again.1)] at different
        cases different
      refine same_mapping_iff.mpr ⟨length.symm, fun other inOthers => ?_⟩
      obtain ⟨entry, inside, key, value⟩ := exists_left_of_forall length found apart other inOthers
      exact ⟨entry, inside, ihKeys entry inside key, ihValues entry inside value⟩
  | tagged inside ih =>
      obtain ⟨other, inner, rfl, name, alike⟩ := exists_of_same_tagged alike
      simp [same, name, ih alike]

end Value

end FlowCheck.Yaml
