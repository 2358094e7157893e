import FlowCheck.Proofs.Json.Record

/-! # Trees and their checked values

A tree is checked as a whole or not at all. Where it is checked, readers of typed data see in the
value what they see in the tree, as long as no field of a record comes twice. And since the fields
that were read have been looked at already, only what a record holds besides its fields can keep the
tree from being checked.
-/

namespace FlowCheck.Json

namespace Value

/-- Items are read one by one. -/
theorem ofItems?_eq_some_iff {depth : Nat} {items : List Tree} {values : List Value} :
    ofItems? depth items = some values ↔
      List.Forall₂ (fun item value => ofTree? depth item = some value) items values := by
  induction items generalizing values with
  | nil => simp [ofItems?, eq_comm]
  | cons item items ih =>
      rw [ofItems?, List.forall₂_cons_left_iff]
      constructor
      · intro checked
        obtain ⟨value, first, checked⟩ := Option.bind_eq_some_iff.mp checked
        obtain ⟨others, later, same⟩ := Option.bind_eq_some_iff.mp checked
        exact ⟨value, others, first, ih.mp later, (Option.some.inj same).symm⟩
      · rintro ⟨value, others, first, later, rfl⟩
        rw [first, ih.mpr later]
        rfl

/-- The names and the values of members are read one by one. -/
theorem ofMembers?_eq_some_iff {depth : Nat} {members : List (List TextUnit × Tree)}
    {entries : List (String × Value)} :
    ofMembers? depth members = some entries ↔
      List.Forall₂ (fun member entry => textOfUnits? member.1 = some entry.1 ∧
        ofTree? depth member.2 = some entry.2) members entries := by
  induction members generalizing entries with
  | nil => simp [ofMembers?, eq_comm]
  | cons member members ih =>
      obtain ⟨key, tree⟩ := member
      rw [ofMembers?, List.forall₂_cons_left_iff]
      constructor
      · intro checked
        obtain ⟨text, known, checked⟩ := Option.bind_eq_some_iff.mp checked
        obtain ⟨value, first, checked⟩ := Option.bind_eq_some_iff.mp checked
        obtain ⟨others, later, same⟩ := Option.bind_eq_some_iff.mp checked
        exact ⟨(text, value), others, ⟨known, first⟩, ih.mp later, (Option.some.inj same).symm⟩
      · rintro ⟨⟨text, value⟩, others, ⟨known, first⟩, later, rfl⟩
        dsimp only at known first
        rw [known, first, ih.mpr later]
        rfl

end Value

/-! ## Readers of trees and of values -/

/-- A value is what a tree was checked to be. -/
def Checks (tree : Tree) (value : Value) : Prop :=
  ∃ depth, Value.ofTree? depth tree = some value

/-- The values of a checked container are those that its parts were checked to be. -/
theorem Checks.array {items : List Tree} {value : Value} (checks : Checks (.array items) value) :
    ∃ values, value = .array values ∧ List.Forall₂ Checks items values := by
  obtain ⟨depth, checked⟩ := checks
  cases depth with
  | zero => cases checked
  | succ depth =>
      obtain ⟨values, each, rfl⟩ := Option.map_eq_some_iff.mp checked
      exact ⟨values, rfl, (Value.ofItems?_eq_some_iff.mp each).imp fun _ _ first => ⟨depth, first⟩⟩

/-- The value of a checked object has its members, with the names that they spell. -/
theorem Checks.object {members : List (List TextUnit × Tree)} {value : Value}
    (checks : Checks (.object members) value) :
    ∃ entries, value = .object entries ∧
      List.Forall₂ (fun member entry => textOfUnits? member.1 = some entry.1 ∧
        Checks member.2 entry.2) members entries := by
  obtain ⟨depth, checked⟩ := checks
  cases depth with
  | zero => cases checked
  | succ depth =>
      obtain ⟨entries, each, rfl⟩ := Option.map_eq_some_iff.mp checked
      exact ⟨entries, rfl, (Value.ofMembers?_eq_some_iff.mp each).imp
        fun _ _ both => ⟨both.1, depth, both.2⟩⟩

/-- A tree and its value are arrays or objects with the same parts, or neither of both. -/
theorem Checks.shapes {tree : Tree} {value : Value} (checks : Checks tree value) :
    (∃ items values, tree = .array items ∧ value = .array values ∧
        List.Forall₂ Checks items values) ∨
      (∃ members entries, tree = .object members ∧ value = .object entries ∧
        List.Forall₂ (fun member entry => textOfUnits? member.1 = some entry.1 ∧
          Checks member.2 entry.2) members entries) ∨
      Tree.view.items? tree = none ∧ Value.view.items? value = none ∧ ∀ names,
        (¬ tree.IsRecord names ∧ ∀ name, tree.field? names name = none) ∧
          ¬ value.IsRecord names ∧ ∀ name, value.field? names name = none := by
  cases tree with
  | array items =>
      obtain ⟨values, rfl, paired⟩ := checks.array
      exact .inl ⟨items, values, rfl, rfl, paired⟩
  | object members =>
      obtain ⟨entries, rfl, paired⟩ := checks.object
      exact .inr (.inl ⟨members, entries, rfl, rfl, paired⟩)
  | text | number =>
      obtain ⟨depth, checked⟩ := checks
      obtain ⟨_, -, rfl⟩ := Option.map_eq_some_iff.mp checked
      exact .inr (.inr ⟨rfl, rfl, fun _ => ⟨⟨id, fun _ => rfl⟩, id, fun _ => rfl⟩⟩)
  | null | bool =>
      obtain ⟨depth, checked⟩ := checks
      obtain rfl := Option.some.inj checked
      exact .inr (.inr ⟨rfl, rfl, fun _ => ⟨⟨id, fun _ => rfl⟩, id, fun _ => rfl⟩⟩)

/-- What is no container looks the same in a tree and in its value. -/
theorem Checks.leaf {tree : Tree} {value : Value} (checks : Checks tree value) :
    Tree.view.isNull tree = Value.view.isNull value ∧
      Tree.view.text? tree = Value.view.text? value ∧
      Tree.view.integer? tree = Value.view.integer? value := by
  cases tree with
  | array items =>
      obtain ⟨values, rfl, -⟩ := checks.array
      exact ⟨rfl, rfl, rfl⟩
  | object members =>
      obtain ⟨entries, rfl, -⟩ := checks.object
      exact ⟨rfl, rfl, rfl⟩
  | text units =>
      obtain ⟨depth, checked⟩ := checks
      obtain ⟨content, known, rfl⟩ := Option.map_eq_some_iff.mp checked
      exact ⟨rfl, known, rfl⟩
  | number numeral =>
      obtain ⟨depth, checked⟩ := checks
      obtain ⟨number, known, rfl⟩ := Option.map_eq_some_iff.mp checked
      refine ⟨rfl, rfl, ?_⟩
      simp only [Tree.view, Value.view, known]
      cases number <;> rfl
  | null | bool =>
      obtain ⟨depth, checked⟩ := checks
      obtain rfl := Option.some.inj checked
      exact ⟨rfl, rfl, rfl⟩

/-- A tree and what it was checked to be give the same text or null. -/
theorem Checks.nullableText? {tree : Tree} {value : Value} (checks : Checks tree value) :
    Tree.view.nullableText? tree = Value.view.nullableText? value := by
  obtain ⟨isNull, text, -⟩ := checks.leaf
  rw [View.nullableText?, isNull, text, ← View.nullableText?]

/-- A tree and what it was checked to be give the same text, empty for null. -/
theorem Checks.textOrEmpty? {tree : Tree} {value : Value} (checks : Checks tree value) :
    Tree.view.textOrEmpty? tree = Value.view.textOrEmpty? value := by
  rw [View.textOrEmpty?, checks.nullableText?, ← View.textOrEmpty?]

/-- A tree and what it was checked to be give the same number. -/
theorem Checks.int64? {tree : Tree} {value : Value} (checks : Checks tree value) :
    Tree.view.int64? tree = Value.view.int64? value := by
  obtain ⟨-, -, integer⟩ := checks.leaf
  rw [View.int64?, integer, ← View.int64?]

private theorem mapM_congr_forall₂ {α β γ : Type} {rule : α → β → Prop} {left : α → Option γ}
    {right : β → Option γ} {items : List α} {others : List β}
    (paired : List.Forall₂ rule items others)
    (alike : ∀ item ∈ items, ∀ other, rule item other → left item = right other) :
    items.mapM left = others.mapM right := by
  induction paired with
  | nil => rfl
  | cons first _ ih =>
      rw [List.forall_mem_cons] at alike
      rw [List.mapM_cons, List.mapM_cons, alike.1 _ first, ih alike.2]

/-- A tree and what it was checked to be give the same list if their items do. -/
theorem Checks.list? {α : Type} {strict : Tree → Option α} {lenient : Value → Option α}
    {tree : Tree} {value : Value} (checks : Checks tree value)
    (alike : ∀ items, tree = .array items → ∀ item ∈ items, ∀ held, Checks item held →
      strict item = lenient held) :
    Tree.view.list? strict tree = Value.view.list? lenient value := by
  rcases checks.shapes with ⟨items, values, rfl, rfl, paired⟩ | ⟨_, _, rfl, rfl, _⟩ |
    ⟨here, there, _⟩
  · exact mapM_congr_forall₂ paired (alike items rfl)
  · rfl
  · rw [View.list?, View.list?, here, there]
    rfl

/-! ## Records -/

/-- Whether a field of a record comes twice. -/
def Tree.Repeats (names : List String) (tree : Tree) : Prop :=
  ∃ members, tree = .object members ∧ ∃ name ∈ names, 1 < (Tree.named name members).length

/-- The members of some name were checked to be the entries of that name, in order. -/
theorem Checks.named {members : List (List TextUnit × Tree)} {entries : List (String × Value)}
    (paired : List.Forall₂ (fun member entry => textOfUnits? member.1 = some entry.1 ∧
      Checks member.2 entry.2) members entries) (name : String) :
    List.Forall₂ Checks (Tree.named name members)
      ((entries.filter fun entry => entry.1 = name).map (·.2)) := by
  induction paired with
  | nil => exact .nil
  | @cons member entry members entries both _ ih =>
      obtain ⟨known, checks⟩ := both
      unfold Tree.named at ih ⊢
      rw [List.filterMap_cons, List.filter_cons, known]
      by_cases here : entry.1 = name
      · simp only [here, ↓reduceIte, decide_true, List.map_cons]
        exact .cons checks ih
      · simpa [here] using ih

/-- A checked tree is a record if its value is one and no field comes twice. -/
theorem Checks.isRecord_iff {tree : Tree} {value : Value} (checks : Checks tree value)
    (names : List String) :
    tree.IsRecord names ↔ value.IsRecord names ∧ ¬ tree.Repeats names := by
  rcases checks.shapes with ⟨items, values, rfl, rfl, paired⟩ |
    ⟨members, entries, rfl, rfl, paired⟩ | ⟨_, _, neither⟩
  · have once : ¬ (Tree.array items).Repeats names := by
      rintro ⟨_, absurd, -⟩
      cases absurd
    rw [and_iff_left once, Tree.IsRecord, Value.IsRecord, paired.length_eq]
  · have known : ∀ member ∈ members, ∃ key, textOfUnits? member.1 = some key := by
      intro member inside
      obtain ⟨entry, same, -⟩ := exists_forall₂_iff.mp ⟨entries, paired⟩ member inside
      exact ⟨entry.1, same⟩
    have once : (∀ name ∈ names, (Tree.named name members).length ≤ 1) ↔
        ¬ (Tree.object members).Repeats names := by
      simp [Tree.Repeats]
    rw [Tree.IsRecord, and_iff_right known, once, Value.IsRecord, true_and]
  · exact iff_of_false (neither names).1.1 fun both => (neither names).2.1 both.1

private theorem getElem?_rel {α β : Type} {rule : α → β → Prop} {items : List α} {others : List β}
    (paired : List.Forall₂ rule items others) (place : Nat) :
    Option.Rel rule items[place]? others[place]? := by
  induction paired generalizing place with
  | nil => exact .none
  | cons first _ ih =>
      cases place with
      | zero => exact .some first
      | succ place => exact ih place

/-- If no field comes twice, each field holds in the value what it holds in the tree. -/
theorem Checks.field?_rel {tree : Tree} {value : Value} (checks : Checks tree value)
    {names : List String} (once : ¬ tree.Repeats names) {name : String} (isField : name ∈ names) :
    Option.Rel Checks (tree.field? names name) (value.field? names name) := by
  rcases checks.shapes with ⟨items, values, rfl, rfl, paired⟩ |
    ⟨members, entries, rfl, rfl, paired⟩ | ⟨_, _, neither⟩
  · exact getElem?_rel paired _
  · have alone : (Tree.named name members).length ≤ 1 := by
      by_contra twice
      exact once ⟨members, rfl, name, isField, by omega⟩
    -- The first of several nodes is not the last, but of one node it is.
    have only : ∀ {nodes values}, List.Forall₂ Checks nodes values → nodes.length ≤ 1 →
        Option.Rel Checks nodes.head? values.getLast? := by
      rintro _ _ (_ | ⟨first, _ | ⟨_, _⟩⟩) single
      · exact .none
      · exact .some first
      · simp at single
    rw [Tree.field?, Value.field?, ← List.getLast?_map]
    exact only (Checks.named paired name) alone
  · rw [(neither names).1.2, (neither names).2.2]
    exact .none

/-- Readers of records get the fields of a tree and of its value alike, or get none. -/
theorem Checks.view_record? {tree : Tree} {value : Value} (checks : Checks tree value)
    {names : List String} (distinct : names.Nodup) (once : ¬ tree.Repeats names) :
    (Tree.view.record? names tree = some (names.map (tree.field? names)) ∧
        Value.view.record? names value = some (names.map (value.field? names))) ∨
      Tree.view.record? names tree = none ∧ Value.view.record? names value = none := by
  have together := checks.isRecord_iff names
  rw [and_iff_left once] at together
  by_cases record : tree.IsRecord names
  · exact .inl ⟨(Tree.view_record?_eq_some_iff distinct).mpr ⟨record, rfl⟩,
      (Value.view_record?_eq_some_iff distinct).mpr ⟨together.mp record, rfl⟩⟩
  · refine .inr ⟨Option.eq_none_iff_forall_ne_some.mpr fun fields read => record ?_,
      Option.eq_none_iff_forall_ne_some.mpr fun fields read => record (together.mpr ?_)⟩
    · exact ((Tree.view_record?_eq_some_iff distinct).mp read).1
    · exact ((Value.view_record?_eq_some_iff distinct).mp read).1

/-- A tree that has a field twice is not read as a record. -/
theorem Tree.view_record?_of_repeats {names : List String} (distinct : names.Nodup) {tree : Tree}
    (repeats : tree.Repeats names) : view.record? names tree = none := by
  obtain ⟨members, rfl, name, isField, twice⟩ := repeats
  refine Option.eq_none_iff_forall_ne_some.mpr fun fields read => ?_
  obtain ⟨⟨-, once⟩, -⟩ := (view_record?_eq_some_iff distinct).mp read
  exact absurd (once name isField) (by omega)

/-- A field and what it was checked to be give the same, and so do two missing fields. -/
theorem fieldOr_congr {α : Type} {strict : Tree → Option α} {lenient : Value → Option α}
    {default : α} {field : Option Tree} {held : Option Value}
    (paired : Option.Rel Checks field held)
    (alike : ∀ node, field = some node → ∀ value, Checks node value → strict node = lenient value) :
    View.fieldOr strict default field = View.fieldOr lenient default held := by
  cases paired with
  | none => rfl
  | some checks => exact alike _ rfl _ checks

/-! ## Passing the check -/

/-- Whether a tree that may nest to a depth can be checked. -/
def Tree.Passes (depth : Nat) (tree : Tree) : Prop :=
  ∃ value, Value.ofTree? depth tree = some value

namespace Tree

/-- An array passes if its items do, one level down. -/
theorem passes_array_iff {depth : Nat} {items : List Tree} :
    (array items).Passes (depth + 1) ↔ ∀ item ∈ items, item.Passes depth := by
  unfold Passes
  rw [← exists_forall₂_iff]
  simp only [Value.ofTree?, Option.map_eq_some_iff, Value.ofItems?_eq_some_iff]
  exact ⟨fun ⟨_, values, each, _⟩ => ⟨values, each⟩, fun ⟨values, each⟩ => ⟨_, values, each, rfl⟩⟩

/-- An object passes if its names are texts and its values pass, one level down. -/
theorem passes_object_iff {depth : Nat} {members : List (List TextUnit × Tree)} :
    (object members).Passes (depth + 1) ↔ ∀ member ∈ members,
      (∃ key, textOfUnits? member.1 = some key) ∧ member.2.Passes depth := by
  have eachPasses : (∃ entries, List.Forall₂ (fun member (entry : String × Value) =>
      textOfUnits? member.1 = some entry.1 ∧ Value.ofTree? depth member.2 = some entry.2)
        members entries) ↔ ∀ member ∈ members,
      (∃ key, textOfUnits? member.1 = some key) ∧ member.2.Passes depth := by
    rw [exists_forall₂_iff]
    refine forall₂_congr fun member _ => ⟨?_, ?_⟩
    · rintro ⟨entry, known, checked⟩
      exact ⟨⟨_, known⟩, _, checked⟩
    · rintro ⟨⟨key, known⟩, value, checked⟩
      exact ⟨(key, value), known, checked⟩
  rw [← eachPasses]
  unfold Passes
  simp only [Value.ofTree?, Option.map_eq_some_iff, Value.ofMembers?_eq_some_iff]
  exact ⟨fun ⟨_, entries, each, _⟩ => ⟨entries, each⟩,
    fun ⟨entries, each⟩ => ⟨_, entries, each, rfl⟩⟩

/-- What an object holds besides the fields of a record. -/
def extras (names : List String) : Tree → List Tree
  | object members =>
    (members.filter fun member => names.all fun name => textOfUnits? member.1 ≠ some name).map (·.2)
  | _ => []

/-- A record passes if what it holds passes, in its fields and besides them. -/
theorem IsRecord.passes_iff {names : List String} (distinct : names.Nodup) {depth : Nat}
    {tree : Tree} (record : tree.IsRecord names) :
    tree.Passes (depth + 1) ↔
      (∀ name ∈ names, ∀ node, tree.field? names name = some node → node.Passes depth) ∧
        ∀ extra ∈ tree.extras names, extra.Passes depth := by
  cases tree with
  | array items =>
      rw [passes_array_iff]
      constructor
      · intro passes
        exact ⟨fun _ _ node held => passes node (List.mem_of_getElem? held), nofun⟩
      · rintro ⟨fields, -⟩ item inside
        obtain ⟨place, inItems, rfl⟩ := List.getElem_of_mem inside
        have inNames : place < names.length := Nat.lt_of_lt_of_le inItems record
        apply fields names[place] (List.getElem_mem inNames)
        rw [field?, distinct.idxOf_getElem, List.getElem?_eq_getElem inItems]
  | object members =>
      obtain ⟨known, once⟩ := record
      rw [passes_object_iff]
      constructor
      · intro passes
        refine ⟨fun name _ node held => ?_, fun extra besides => ?_⟩
        · obtain ⟨member, inside, here⟩ := List.mem_filterMap.mp (List.mem_of_head? held)
          rw [Option.ite_none_right_eq_some] at here
          exact Option.some.inj here.2 ▸ (passes member inside).2
        · obtain ⟨member, kept, rfl⟩ := List.mem_map.mp besides
          exact (passes member (List.mem_filter.mp kept).1).2
      · rintro ⟨fields, extras⟩ member inside
        refine ⟨known member inside, ?_⟩
        -- A member with the name of a field is what that field holds, since it comes only once.
        by_cases isField : ∃ name ∈ names, textOfUnits? member.1 = some name
        · obtain ⟨name, inNames, read⟩ := isField
          have held : member.2 ∈ named name members :=
            List.mem_filterMap.mpr ⟨member, inside, if_pos read⟩
          apply fields name inNames
          rw [field?, List.head?_eq_some_iff]
          match found : named name members, held, once name inNames with
          | [only], held, _ => exact ⟨[], by rw [List.mem_singleton.mp held]⟩
        · apply extras
          refine List.mem_map.mpr ⟨member, List.mem_filter.mpr ⟨inside, ?_⟩, rfl⟩
          simpa using isField
  | _ => exact record.elim

/-- What is read as a text or as null passes, however deep it may nest. -/
theorem passes_of_nullableText? {tree : Tree} {told : Option String}
    (read : view.nullableText? tree = some told) (depth : Nat) : tree.Passes depth := by
  cases tree with
  | null => exact ⟨_, rfl⟩
  | text units =>
      obtain ⟨content, known, -⟩ := Option.map_eq_some_iff.mp read
      change textOfUnits? units = some content at known
      exact ⟨.text content, by rw [Value.ofTree?, known]; rfl⟩
  | _ => cases read

/-- What is read as a text or as nothing passes at any depth. -/
theorem passes_of_textOrEmpty? {tree : Tree} {told : String}
    (read : view.textOrEmpty? tree = some told) (depth : Nat) : tree.Passes depth := by
  obtain ⟨_, known, -⟩ := Option.map_eq_some_iff.mp read
  exact passes_of_nullableText? known depth

/-- What is read as a number passes at any depth. -/
theorem passes_of_int64? {tree : Tree} {told : Int64} (read : view.int64? tree = some told)
    (depth : Nat) : tree.Passes depth := by
  obtain ⟨whole, known, -⟩ := Option.bind_eq_some_iff.mp read
  cases tree with
  | number numeral =>
      cases isNumber : numeral.number? with
      | none => simp [view, isNumber] at known
      | some number => exact ⟨.number number, by rw [Value.ofTree?, isNumber]; rfl⟩
  | _ => cases known

/-- What is read as a list is an array whose items are read. -/
theorem list?_eq_some {α : Type} {read : Tree → Option α} {tree : Tree} {told : List α}
    (isRead : view.list? read tree = some told) :
    ∃ items, tree = array items ∧ ∀ item ∈ items, ∃ result, read item = some result := by
  obtain ⟨items, isArray, each⟩ := Option.bind_eq_some_iff.mp isRead
  cases tree with
  | array =>
      obtain rfl := Option.some.inj isArray
      exact ⟨_, rfl, exists_forall₂_iff.mp ⟨told, mapM_eq_some_iff.mp each⟩⟩
  | _ => cases isArray

/-- A field passes if all that can be read in its place does. -/
theorem passes_of_fieldOr {α : Type} {read : Tree → Option α} {default told : α}
    {field : Option Tree} {depth : Nat} (isRead : View.fieldOr read default field = some told)
    (passes : ∀ {node : Tree} {told}, read node = some told → ∀ depth, node.Passes depth) :
    ∀ node, field = some node → node.Passes depth := by
  rintro node rfl
  exact passes isRead depth

end Tree

end FlowCheck.Json
