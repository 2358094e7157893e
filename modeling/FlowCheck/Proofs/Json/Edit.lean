import FlowCheck.Proofs.Json.Record
import Mathlib.Data.List.Perm.Basic

/-! # Edits of records

A record can be written in many ways: with its members in another order, with members besides its
fields, and without a field that holds what it has by default anyway. An edit takes one way into
another. It leaves a record a record and, in each field, what is read from it.
-/

namespace FlowCheck.Json

namespace Tree

variable {names : List String} {omissible : String → Tree → Prop} {tree edited : Tree}
  {name : String} {members others before after : List (List TextUnit × Tree)}
  {key : List TextUnit} {value : Tree}

/-- One edit of an object that is a record with some fields: the members change places, a member
comes in whose key is no field, or a field goes that may be left out. -/
inductive RecordEdit (names : List String) (omissible : String → Tree → Prop) : Tree → Tree → Prop
  | permute {members others : List (List TextUnit × Tree)} (perm : members.Perm others) :
      RecordEdit names omissible (.object members) (.object others)
  | insert (before after : List (List TextUnit × Tree)) {key : List TextUnit} {name : String}
      (isKey : textOfUnits? key = some name) (undeclared : name ∉ names) (value : Tree) :
      RecordEdit names omissible (.object (before ++ after))
        (.object (before ++ (key, value) :: after))
  | remove (before after : List (List TextUnit × Tree)) {key : List TextUnit} {name : String}
      {value : Tree} (isKey : textOfUnits? key = some name) (omitted : omissible name value) :
      RecordEdit names omissible (.object (before ++ (key, value) :: after))
        (.object (before ++ after))

/-- An edit of one item of the list that an object holds as a member. -/
inductive ItemEdit (name : String) (edit : Tree → Tree → Prop) : Tree → Tree → Prop
  | item (before after : List (List TextUnit × Tree)) (items later : List Tree)
      {key : List TextUnit} {item edited : Tree} (isKey : textOfUnits? key = some name)
      (edits : edit item edited) :
      ItemEdit name edit (.object (before ++ (key, .array (items ++ item :: later)) :: after))
        (.object (before ++ (key, .array (items ++ edited :: later)) :: after))

/-! ## Members with a name -/

private theorem head?_eq_of_perm {α : Type} {items others : List α} (perm : items.Perm others)
    (single : items.length ≤ 1) : items.head? = others.head? := by
  match items, single with
  | [], _ => rw [perm.nil_eq]
  | [_], _ => rw [perm.singleton_eq]

/-- Where a name comes at most once, nothing beside the member that has it does. -/
theorem named_of_single (isKey : textOfUnits? key = some name)
    (single : (named name (before ++ (key, value) :: after)).length ≤ 1) :
    named name (before ++ after) = [] ∧
      ∀ other, named name (before ++ (key, other) :: after) = [other] := by
  rw [named_append, named_cons_self isKey, List.length_append, List.length_cons] at single
  have nothing : named name before = [] ∧ named name after = [] := by
    constructor <;> apply List.eq_nil_of_length_eq_zero <;> omega
  constructor
  · rw [named_append, nothing.1, nothing.2, List.append_nil]
  · intro other
    rw [named_append, named_cons_self isKey, nothing.1, nothing.2, List.nil_append]

/-! ## What is kept -/

/-- A field holds what it held, or it is left out and may be. -/
inductive Keeps (omissible : Tree → Prop) : Option Tree → Option Tree → Prop
  | kept (field : Option Tree) : Keeps omissible field field
  | omitted {node : Tree} (omitted : omissible node) : Keeps omissible (some node) none

private theorem Keeps.of_eq {omissible : Tree → Prop} {field other : Option Tree}
    (same : field = other) : Keeps omissible field other :=
  same ▸ .kept field

/-- What may be left out is what is read by default. -/
theorem Keeps.fieldOr_eq {α : Type} {omissible : Tree → Prop} {field other : Option Tree}
    (keeps : Keeps omissible field other) {read : Tree → Option α} {default : α}
    (defaults : ∀ node, omissible node → read node = some default) :
    View.fieldOr read default other = View.fieldOr read default field := by
  cases keeps with
  | kept => rfl
  | omitted omitted => exact (defaults _ omitted).symm

/-- A field that may not be omitted is kept as it is. -/
theorem Keeps.eq_of_needed {omissible : Tree → Prop} {field other : Option Tree}
    (keeps : Keeps omissible field other) (needed : ∀ node, ¬ omissible node) : other = field := by
  cases keeps with
  | kept => rfl
  | omitted omitted => exact (needed _ omitted).elim

/-- An edited record is a record, and each of its fields is kept. -/
theorem RecordEdit.keeps (edit : RecordEdit names omissible tree edited)
    (record : tree.IsRecord names) :
    edited.IsRecord names ∧ ∀ name ∈ names,
      Keeps (omissible name) (tree.field? names name) (edited.field? names name) := by
  cases edit with
  | @permute members others perm =>
      obtain ⟨known, once⟩ := record
      have same : ∀ name, (named name members).Perm (named name others) :=
        fun name => perm.filterMap _
      refine ⟨⟨?_, ?_⟩, ?_⟩
      · intro member inside
        exact known member (perm.mem_iff.mpr inside)
      · intro name isField
        rw [← (same name).length_eq]
        exact once name isField
      · intro name isField
        exact .of_eq (head?_eq_of_perm (same name) (once name isField))
  | @insert before after key other isKey undeclared value =>
      obtain ⟨known, once⟩ := record
      have same : ∀ name ∈ names,
          named name (before ++ (key, value) :: after) = named name (before ++ after) := by
        intro name isField
        have different : other ≠ name := by
          rintro rfl
          exact undeclared isField
        rw [named_append, named_cons_of_ne isKey different, ← named_append]
      refine ⟨⟨?_, ?_⟩, ?_⟩
      · intro member inside
        rcases List.mem_append.mp inside with early | late
        · exact known member (List.mem_append_left _ early)
        · rcases List.mem_cons.mp late with rfl | late
          · exact ⟨other, isKey⟩
          · exact known member (List.mem_append_right _ late)
      · intro name isField
        rw [same name isField]
        exact once name isField
      · intro name isField
        exact .of_eq (congrArg List.head? (same name isField).symm)
  | @remove before after key other value isKey omitted =>
      obtain ⟨known, once⟩ := record
      have fewer : ∀ name, (named name (before ++ after)).length ≤
          (named name (before ++ (key, value) :: after)).length := by
        intro name
        have fewer := (List.Sublist.refl before).append (List.sublist_cons_self (key, value) after)
        exact (fewer.filterMap _).length_le
      refine ⟨⟨?_, ?_⟩, ?_⟩
      · intro member inside
        apply known member
        rw [List.mem_append, List.mem_cons]
        rw [List.mem_append] at inside
        tauto
      · intro name isField
        exact Nat.le_trans (fewer name) (once name isField)
      · intro name isField
        by_cases here : other = name
        · subst here
          obtain ⟨gone, alone⟩ := named_of_single isKey (once other isField)
          rw [field?, field?, alone, gone]
          exact .omitted omitted
        · rw [field?, field?, named_append, named_cons_of_ne isKey here, ← named_append]
          exact .kept _

/-- Where one item of a list is edited, the record has the same fields but for the list, and in the
list the other items are the same. -/
theorem ItemEdit.keeps {edit : Tree → Tree → Prop} (edits : ItemEdit name edit tree edited)
    (record : tree.IsRecord names) (isField : name ∈ names) :
    edited.IsRecord names ∧
      (∀ other ∈ names, other ≠ name → edited.field? names other = tree.field? names other) ∧
      ∃ items item later changed, edit item changed ∧
        tree.field? names name = some (.array (items ++ item :: later)) ∧
        edited.field? names name = some (.array (items ++ changed :: later)) := by
  obtain @⟨before, after, items, later, key, item, changed, isKey, edits⟩ := edits
  obtain ⟨known, once⟩ := record
  obtain ⟨-, alone⟩ := named_of_single isKey (once name isField)
  have elsewhere : ∀ {other : String} {old new : Tree}, other ≠ name →
      named other (before ++ (key, new) :: after) =
        named other (before ++ (key, old) :: after) := by
    intro other old new different
    rw [named_append, named_append, named_cons_of_ne isKey different.symm,
      named_cons_of_ne isKey different.symm]
  refine ⟨⟨?_, ?_⟩, ?_, items, item, later, changed, edits, ?_, ?_⟩
  · intro member inside
    rcases List.mem_append.mp inside with early | late
    · exact known member (List.mem_append_left _ early)
    · rcases List.mem_cons.mp late with rfl | late
      · exact ⟨name, isKey⟩
      · exact known member (List.mem_append_right _ (List.mem_cons_of_mem _ late))
  · intro other isOther
    by_cases here : other = name
    · rw [here, alone]
      exact Nat.le_refl 1
    · rw [elsewhere here]
      exact once other isOther
  · intro other _ different
    exact congrArg List.head? (elsewhere different)
  · rw [field?, alone, List.head?_cons]
  · rw [field?, alone, List.head?_cons]

/-- A list with one item edited is read as before if the item is. -/
theorem list?_of_item {α : Type} {read : Tree → Option α} {items later : List Tree}
    {item changed : Tree} {told : List α}
    (kept : ∀ result, read item = some result → read changed = some result)
    (isRead : view.list? read (.array (items ++ item :: later)) = some told) :
    view.list? read (.array (items ++ changed :: later)) = some told := by
  have same : read changed = read item := by
    cases held : read item with
    | none =>
        have inside : item ∈ items ++ item :: later :=
          List.mem_append_right _ List.mem_cons_self
        cases (mapM_eq_none inside held).symm.trans isRead
    | some result => exact kept result held
  rw [← isRead]
  simp only [View.list?, view, Option.bind_some, List.mapM_append, List.mapM_cons, same]

end Tree

end FlowCheck.Json
