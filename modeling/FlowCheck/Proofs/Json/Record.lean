import FlowCheck.Json.Record
import Mathlib.Data.List.Forall2
import Mathlib.Data.List.Nodup

/-! # The fields of a record

A record is an object, whose members are its fields, or an array with the fields in the order of
their declaration. What a field holds can be said without the others: in a value it is what the last
member with its name holds, and in a tree what the only one holds.
-/

namespace FlowCheck.Json

/-- A list is read exactly if its items are, to the list of what they are read to. -/
theorem mapM_eq_some_iff {α β : Type} {read : α → Option β} {items : List α} {results : List β} :
    items.mapM read = some results ↔
      List.Forall₂ (fun item result => read item = some result) items results := by
  induction items generalizing results with
  | nil => simp [eq_comm]
  | cons item items ih =>
      rw [List.mapM_cons, List.forall₂_cons_left_iff]
      constructor
      · intro read
        obtain ⟨result, first, rest⟩ := Option.bind_eq_some_iff.mp read
        obtain ⟨others, later, same⟩ := Option.bind_eq_some_iff.mp rest
        exact ⟨result, others, first, ih.mp later, (Option.some.inj same).symm⟩
      · rintro ⟨result, others, first, later, rfl⟩
        rw [first, ih.mpr later]
        rfl

/-- Every item stands in a relation to something exactly if a list does, item by item. -/
theorem exists_forall₂_iff {α β : Type} {rule : α → β → Prop} {items : List α} :
    (∃ results, List.Forall₂ rule items results) ↔ ∀ item ∈ items, ∃ result, rule item result := by
  induction items with
  | nil => simp
  | cons item items ih =>
      rw [List.forall_mem_cons, ← ih]
      constructor
      · rintro ⟨_, _ | ⟨first, rest⟩⟩
        exact ⟨⟨_, first⟩, _, rest⟩
      · rintro ⟨⟨result, first⟩, results, rest⟩
        exact ⟨result :: results, .cons first rest⟩

/-- A list with an unread item is not read. -/
theorem mapM_eq_none {α β : Type} {read : α → Option β} {items : List α} {item : α}
    (inside : item ∈ items) (unread : read item = none) : items.mapM read = none := by
  refine Option.eq_none_iff_forall_ne_some.mpr fun results isRead => ?_
  obtain ⟨result, first⟩ := exists_forall₂_iff.mp ⟨results, mapM_eq_some_iff.mp isRead⟩ item inside
  rw [unread] at first
  cases first

private theorem mapM_guarded_eq_some_iff {α β : Type} {names : List α} {guard : α → Prop}
    [DecidablePred guard] {result : α → β} {results : List β} :
    names.mapM (fun name => if guard name then some (result name) else none) = some results ↔
      (∀ name ∈ names, guard name) ∧ results = names.map result := by
  rw [mapM_eq_some_iff]
  simp only [Option.ite_none_right_eq_some, Option.some.injEq]
  rw [List.forall₂_and_left, ← List.forall₂_map_left_iff (R := Eq), List.forall₂_eq_eq_eq]
  exact and_congr_right' eq_comm

/-- An array that is not too long gives each field the item in its place, if there is one. -/
theorem padded_eq_map {α : Type} {names : List String} (distinct : names.Nodup) {items : List α}
    (fits : items.length ≤ names.length) :
    items.map some ++ List.replicate (names.length - items.length) none =
      names.map fun name => items[names.idxOf name]? := by
  apply List.ext_getElem
  · simp only [List.length_append, List.length_map, List.length_replicate]
    omega
  · intro place _ inNames
    rw [List.length_map] at inNames
    rw [List.getElem_map, distinct.idxOf_getElem]
    by_cases inItems : place < items.length
    · rw [List.getElem_append_left (by rwa [List.length_map]), List.getElem_map,
        List.getElem?_eq_getElem inItems]
    · rw [List.getElem_append_right (by rw [List.length_map]; omega), List.getElem_replicate,
        List.getElem?_eq_none (by omega)]

/-! ## Values -/

namespace Value

/-- Whether a value is a record with some fields: an object, or an array that is not too long. -/
def IsRecord (names : List String) : Value → Prop
  | object _ => True
  | array items => items.length ≤ names.length
  | _ => False

/-- What a record holds in one of its fields. -/
def field? (names : List String) (name : String) : Value → Option Value
  | object members => ((members.filter fun member => member.1 = name).getLast?).map (·.2)
  | array items => items[names.idxOf name]?
  | _ => none

/-- A value gives the fields of a record exactly if it is one, and these are the fields it has. -/
theorem view_record?_eq_some_iff {names : List String} (distinct : names.Nodup) {value : Value}
    {fields : List (Option Value)} :
    view.record? names value = some fields ↔
      value.IsRecord names ∧ fields = names.map (value.field? names) := by
  cases value with
  | array items =>
      simp only [View.record?, view, IsRecord, Option.ite_none_right_eq_some, Option.some.injEq]
      refine and_congr_right fun fits => ?_
      rw [padded_eq_map distinct fits]
      exact eq_comm
  | object members =>
      have lookup : view.field? members =
          fun name => if True then some ((object members).field? names name) else none := by
        funext name
        rw [if_pos trivial]
        simp only [view, field?, List.getLast?_eq_head?_reverse, ← List.filter_reverse,
          List.head?_filter]
      change names.mapM (view.field? members) = some fields ↔ _
      rw [lookup, mapM_guarded_eq_some_iff]
      simp only [IsRecord, implies_true]
  | _ => simp [View.record?, view, IsRecord]

end Value

/-! ## Trees -/

namespace Tree

/-- What the members of an object hold that have a name. -/
def named (name : String) (members : List (List TextUnit × Tree)) : List Tree :=
  members.filterMap fun member =>
    if textOfUnits? member.1 = some name then some member.2 else none

/-- Whether a tree is a record with some fields: an array that is not too long, or an object whose
keys are text and in which no field comes twice. -/
def IsRecord (names : List String) : Tree → Prop
  | object members => (∀ member ∈ members, ∃ key, textOfUnits? member.1 = some key) ∧
      ∀ name ∈ names, (named name members).length ≤ 1
  | array items => items.length ≤ names.length
  | _ => False

/-- What a record holds in one of its fields. -/
def field? (names : List String) (name : String) : Tree → Option Tree
  | object members => (named name members).head?
  | array items => items[names.idxOf name]?
  | _ => none

section Named

variable {name : String} {key : List TextUnit}

/-- The members of some name in two lists are those in the first and those in the second. -/
theorem named_append (name : String) (members others : List (List TextUnit × Tree)) :
    named name (members ++ others) = named name members ++ named name others :=
  List.filterMap_append

/-- A first member of the name is among them. -/
theorem named_cons_self (isKey : textOfUnits? key = some name) (value : Tree)
    (members : List (List TextUnit × Tree)) :
    named name ((key, value) :: members) = value :: named name members := by
  simp [named, isKey]

/-- A first member of another name is not among them. -/
theorem named_cons_of_ne {other : String} (isKey : textOfUnits? key = some other)
    (different : other ≠ name) (value : Tree) (members : List (List TextUnit × Tree)) :
    named name ((key, value) :: members) = named name members := by
  simp [named, isKey, different]

private theorem named_of_notMem {names : List String} {members : List (List TextUnit × Tree)}
    (keys : List.Forall₂ (fun name member => textOfUnits? member.1 = some name) names members)
    (unnamed : name ∉ names) : named name members = [] := by
  induction keys with
  | nil => rfl
  | cons known _ ih =>
      rw [List.mem_cons, not_or] at unnamed
      rw [named_cons_of_ne known (Ne.symm unnamed.1), ih unnamed.2]

/-- If no key comes twice, each names the one member that has it. -/
theorem map_named {names : List String} {members : List (List TextUnit × Tree)}
    (keys : List.Forall₂ (fun name member => textOfUnits? member.1 = some name) names members)
    (distinct : names.Nodup) :
    names.map (fun name => named name members) = members.map fun member => [member.2] := by
  induction keys with
  | nil => rfl
  | @cons name member names members known others ih =>
      rw [List.nodup_cons] at distinct
      have first : named name (member :: members) = [member.2] := by
        rw [named_cons_self known, named_of_notMem others distinct.1]
      have later : names.map (fun other => named other (member :: members)) =
          names.map fun other => named other members := by
        apply List.map_congr_left
        intro other inside
        exact named_cons_of_ne known (fun same => distinct.1 (same ▸ inside)) _ _
      rw [List.map_cons, List.map_cons, first, later, ih distinct.2]

end Named

private theorem keyed?_eq_some_iff {members : List (List TextUnit × Tree)}
    {keyed : List (String × Tree)} :
    keyed? members = some keyed ↔
      List.Forall₂ (fun member entry => textOfUnits? member.1 = some entry.1 ∧ member.2 = entry.2)
        members keyed := by
  induction members generalizing keyed with
  | nil => simp [keyed?, eq_comm]
  | cons member rest ih =>
      obtain ⟨key, tree⟩ := member
      rw [keyed?, List.forall₂_cons_left_iff]
      constructor
      · intro read
        obtain ⟨text, known, read⟩ := Option.bind_eq_some_iff.mp read
        obtain ⟨others, later, same⟩ := Option.bind_eq_some_iff.mp read
        exact ⟨(text, tree), others, ⟨known, rfl⟩, ih.mp later, (Option.some.inj same).symm⟩
      · rintro ⟨⟨text, _⟩, others, ⟨known, rfl⟩, later, rfl⟩
        dsimp only at known
        rw [known, ih.mpr later]
        rfl

private theorem exists_keyed_iff {members : List (List TextUnit × Tree)} :
    (∃ keyed, keyed? members = some keyed) ↔
      ∀ member ∈ members, ∃ key, textOfUnits? member.1 = some key := by
  simp only [keyed?_eq_some_iff, exists_forall₂_iff]
  refine forall₂_congr fun member _ => ⟨fun ⟨entry, known, _⟩ => ⟨entry.1, known⟩, ?_⟩
  rintro ⟨key, known⟩
  exact ⟨(key, member.2), known, rfl⟩

private theorem named_eq_filter {members : List (List TextUnit × Tree)}
    {keyed : List (String × Tree)} (read : keyed? members = some keyed) (name : String) :
    named name members = (keyed.filter fun entry => entry.1 = name).map (·.2) := by
  have same := keyed?_eq_some_iff.mp read
  clear read
  induction same with
  | nil => rfl
  | @cons member entry members keyed both _ ih =>
      obtain ⟨known, holds⟩ := both
      unfold named at ih ⊢
      rw [List.filterMap_cons, List.filter_cons, ih, known]
      by_cases here : entry.1 = name
      · simp [here, holds]
      · simp [here]

private theorem view_field?_eq {keyed : List (String × Tree)} {name : String} {found : List Tree}
    (same : found = (keyed.filter fun entry => entry.1 = name).map (·.2)) :
    view.field? keyed name = if found.length ≤ 1 then some found.head? else none := by
  subst same
  unfold view
  dsimp only
  generalize keyed.filter (fun entry => decide (entry.1 = name)) = entries
  match entries with
  | [] => rfl
  | [_] => rfl
  | _ :: _ :: _ => simp

/-- A tree gives the fields of a record exactly if it is one, and these are the fields it has. -/
theorem view_record?_eq_some_iff {names : List String} (distinct : names.Nodup) {tree : Tree}
    {fields : List (Option Tree)} :
    view.record? names tree = some fields ↔
      tree.IsRecord names ∧ fields = names.map (tree.field? names) := by
  cases tree with
  | array items =>
      simp only [View.record?, view, IsRecord, Option.ite_none_right_eq_some, Option.some.injEq]
      refine and_congr_right fun fits => ?_
      rw [padded_eq_map distinct fits]
      exact eq_comm
  | object members =>
      have lookup : ∀ {keyed}, keyed? members = some keyed → (names.mapM (view.field? keyed) =
          some fields ↔ (∀ name ∈ names, (named name members).length ≤ 1) ∧
            fields = names.map ((object members).field? names)) := by
        intro keyed read
        rw [show view.field? keyed = fun name =>
            if (named name members).length ≤ 1 then some (named name members).head? else none from
          funext fun name => view_field?_eq (named_eq_filter read name), mapM_guarded_eq_some_iff]
        rfl
      change (keyed? members).bind (fun keyed => names.mapM (view.field? keyed)) = some fields ↔ _
      rw [Option.bind_eq_some_iff, IsRecord, and_assoc]
      constructor
      · rintro ⟨keyed, read, fieldwise⟩
        exact ⟨exists_keyed_iff.mp ⟨keyed, read⟩, (lookup read).mp fieldwise⟩
      · rintro ⟨known, fieldwise⟩
        obtain ⟨keyed, read⟩ := exists_keyed_iff.mpr known
        exact ⟨keyed, read, (lookup read).mpr fieldwise⟩
  | _ => simp [View.record?, view, IsRecord]

/-- An object that has the fields of a record for its keys holds them in order. -/
theorem view_record?_of_keys {names : List String} {members : List (List TextUnit × Tree)}
    (keys : List.Forall₂ (fun name member => textOfUnits? member.1 = some name) names members)
    (distinct : names.Nodup) :
    view.record? names (.object members) = some (members.map fun member => some member.2) := by
  have each := map_named keys distinct
  refine (view_record?_eq_some_iff distinct).mpr ⟨⟨?_, ?_⟩, ?_⟩
  · exact exists_forall₂_iff.mp ⟨names, keys.flip⟩
  · intro name isField
    have alone : named name members ∈ members.map fun member => [member.2] :=
      each ▸ List.mem_map_of_mem isField
    obtain ⟨member, -, single⟩ := List.mem_map.mp alone
    rw [← single]
    exact Nat.le_refl 1
  · have heads := congrArg (List.map List.head?) each
    rw [List.map_map, List.map_map] at heads
    exact heads.symm

end Tree

end FlowCheck.Json
