import FlowCheck.Proofs.Json.Checked
import FlowCheck.Proofs.Json.Spelling

/-! # Values that are read back

A value can be written in several ways, which differ in the blanks between its parts. If it holds no
other numbers than integers, what is written spells a tree that is written for the value: it has the
same shape, and each leaf is one for the leaf of the value. If the integers fit 64 bits and nesting
is bounded, the tree is checked to be the value, so that the value is had back from its written
form.
-/

namespace FlowCheck.Json

/-- The numeral that is written for an integer. -/
def Numeral.ofInt (n : Int) : Numeral :=
  ⟨decide (n < 0), Nat.toDigits 10 n.natAbs, [], none⟩

/-- A number that is written without a sign, a fraction and an exponent, whatever its size. -/
def Tree.natural? : Tree → Option Nat
  | .number ⟨false, whole, [], none⟩ => some (digitsValue whole)
  | _ => none

namespace Value

/-- The numbers of a value are integers. -/
inductive IsWhole : Value → Prop where
  | null : IsWhole null
  | bool {value : Bool} : IsWhole (bool value)
  | text {content : String} : IsWhole (text content)
  | integer {n : Int} : IsWhole (ofInt n)
  | array {items : List Value} (each : ∀ item ∈ items, IsWhole item) : IsWhole (array items)
  | object {members : List (String × Value)} (each : ∀ member ∈ members, IsWhole member.2) :
      IsWhole (object members)

/-- A value nests no deeper than given, and its numbers are integers that 64 bits hold, with a sign
or without one. -/
inductive Fits : Nat → Value → Prop where
  | null {depth : Nat} : Fits depth null
  | bool {depth : Nat} {value : Bool} : Fits depth (bool value)
  | text {depth : Nat} {content : String} : Fits depth (text content)
  | integer {depth : Nat} {n : Int} (above : -0x8000000000000000 ≤ n)
      (below : n < 0x10000000000000000) : Fits depth (ofInt n)
  | array {depth : Nat} {items : List Value} (each : ∀ item ∈ items, Fits depth item) :
      Fits (depth + 1) (array items)
  | object {depth : Nat} {members : List (String × Value)}
      (each : ∀ member ∈ members, Fits depth member.2) : Fits (depth + 1) (object members)

/-- A tree is written for a value. -/
inductive Writes : Value → Tree → Prop where
  | null : Writes null .null
  | bool {value : Bool} : Writes (bool value) (.bool value)
  | text {content : String} {units : List TextUnit} (known : textOfUnits? units = some content) :
      Writes (text content) (.text units)
  | integer {n : Int} : Writes (ofInt n) (.number (.ofInt n))
  | array {items : List Value} {trees : List Tree} (each : List.Forall₂ Writes items trees) :
      Writes (array items) (.array trees)
  | object {members : List (String × Value)} {entries : List (List TextUnit × Tree)}
      (keys : List.Forall₂ (fun member entry => textOfUnits? entry.1 = some member.1)
        members entries)
      (each : List.Forall₂ (fun member entry => Writes member.2 entry.2) members entries) :
      Writes (object members) (.object entries)

/-- A way of writing values at any depth of nesting, which is free in the blanks behind the first
bracket of a container, behind its commas and colons, and before its last bracket. -/
structure LaysOut (write : Nat → Value → List Char) : Prop where
  null : ∀ depth, write depth null = "null".toList
  bool : ∀ depth value, write depth (bool value) = if value then "true".toList else "false".toList
  text : ∀ depth content, write depth (text content) = quote content.toList
  integer : ∀ depth n, write depth (ofInt n) = (Number.integer n).chars
  array : ∀ depth items, ∃ lead separator tail,
    (∀ c ∈ lead ++ separator ++ tail, isBlank c = true) ∧
    write depth (array items) = '[' :: (lead ++
      (commaSeparated separator (items.map (write (depth + 1))) ++ (tail ++ [']'])))
  object : ∀ depth members, ∃ lead separator gap tail,
    (∀ c ∈ lead ++ separator ++ gap ++ tail, isBlank c = true) ∧
    write depth (object members) = '{' :: (lead ++
      (commaSeparated separator (members.map fun member =>
        quote member.1.toList ++ ':' :: (gap ++ write (depth + 1) member.2)) ++ (tail ++ ['}'])))

/-! ## Ways of writing -/

private theorem compactItems_eq_map (items : List Value) :
    compactItems items = items.map compact := by
  induction items with
  | nil => rfl
  | cons item items ih => rw [compactItems, List.map_cons, ih]

private theorem compactMembers_eq_map (members : List (String × Value)) :
    compactMembers members =
      members.map fun member => quote member.1.toList ++ ':' :: compact member.2 := by
  induction members with
  | nil => rfl
  | cons member members ih =>
      obtain ⟨key, value⟩ := member
      rw [compactMembers, List.map_cons, ih]

private theorem prettyItems_eq_map (depth : Nat) (items : List Value) :
    prettyItems depth items = items.map (pretty depth) := by
  induction items with
  | nil => rfl
  | cons item items ih => rw [prettyItems, List.map_cons, ih]

private theorem prettyMembers_eq_map (depth : Nat) (members : List (String × Value)) :
    prettyMembers depth members =
      members.map fun member => quote member.1.toList ++ ':' :: ' ' :: pretty depth member.2 := by
  induction members with
  | nil => rfl
  | cons member members ih =>
      obtain ⟨key, value⟩ := member
      rw [prettyMembers, List.map_cons, ih]

private theorem isBlank_of_mem_newLine {depth : Nat} {c : Char} (inside : c ∈ newLine depth) :
    isBlank c = true := by
  rcases List.mem_cons.mp inside with rfl | blank
  · rfl
  · rw [List.eq_of_mem_replicate blank]
    rfl

/-- On one line there are no blanks. -/
theorem compact_laysOut : LaysOut fun _ => compact where
  null _ := by rw [compact]
  bool _ _ := by rw [compact]
  text _ _ := by rw [compact]
  integer _ _ := by rw [ofInt, compact]
  array _ items := ⟨[], [], [], nofun, by rw [compact, compactItems_eq_map]; rfl⟩
  object _ members := ⟨[], [], [], [], nofun, by rw [compact, compactMembers_eq_map]; rfl⟩

/-- Over several lines, blanks are new lines with their indentation, and a space behind a colon. -/
theorem pretty_laysOut : LaysOut pretty where
  null _ := by rw [pretty]
  bool _ _ := by rw [pretty]
  text _ _ := by rw [pretty]
  integer _ _ := by rw [ofInt, pretty]
  array depth items := by
    cases items with
    | nil => exact ⟨[], [], [], nofun, by rw [pretty]; rfl⟩
    | cons item items =>
        refine ⟨newLine (depth + 1), newLine (depth + 1), newLine depth, ?_, ?_⟩
        · simp only [List.mem_append]
          rintro c ((inside | inside) | inside) <;> exact isBlank_of_mem_newLine inside
        · rw [pretty, prettyItems_eq_map, List.map_cons]
          simp only [List.append_assoc]
  object depth members := by
    cases members with
    | nil => exact ⟨[], [], [], [], nofun, by rw [pretty]; rfl⟩
    | cons member members =>
        refine ⟨newLine (depth + 1), newLine (depth + 1), [' '], newLine depth, ?_, ?_⟩
        · simp only [List.mem_append]
          rintro c (((inside | inside) | inside) | inside)
          · exact isBlank_of_mem_newLine inside
          · exact isBlank_of_mem_newLine inside
          · rw [List.mem_singleton.mp inside]
            rfl
          · exact isBlank_of_mem_newLine inside
        · obtain ⟨key, value⟩ := member
          rw [pretty, prettyMembers_eq_map, List.map_cons]
          simp only [List.append_assoc, List.singleton_append]

/-! ## Written trees -/

/-- However a value is laid out, its written form spells a tree that is written for it. -/
theorem IsWhole.exists_spelled {write : Nat → Value → List Char} (lays : LaysOut write)
    {value : Value} (whole : value.IsWhole) (depth : Nat) :
    ∃ tree, Spells (write depth value) tree ∧ value.Writes tree := by
  -- What a container holds is written one level deeper, so the depth is any.
  induction whole generalizing depth with
  | null =>
      rw [lays.null]
      exact ⟨_, spells_null, .null⟩
  | bool =>
      rw [lays.bool]
      exact ⟨_, spells_bool _, .bool⟩
  | @text content =>
      obtain ⟨units, spells, known⟩ := exists_spelling_of_text content
      rw [lays.text]
      exact ⟨_, spells, .text known⟩
  | integer =>
      rw [lays.integer]
      exact ⟨_, spells_integer _, .integer⟩
  | @array items _ ih =>
      obtain ⟨trees, each⟩ := exists_forall₂_iff.mpr fun item inside => ih item inside (depth + 1)
      obtain ⟨lead, separator, tail, blank, written⟩ := lays.array depth items
      simp only [List.forall_mem_append] at blank
      refine ⟨.array trees, ?_, .array (each.imp fun _ _ both => both.2)⟩
      rw [written]
      refine array_isContainer.spells blank.1.1 blank.1.2 blank.2 ?_
      rw [List.forall₂_map_left_iff]
      exact each.imp fun _ _ both => both.1
  | @object members _ ih =>
      obtain ⟨lead, separator, gap, tail, blank, written⟩ := lays.object depth members
      simp only [List.forall_mem_append] at blank
      have eachMember : ∀ member ∈ members, ∃ entry : List TextUnit × Tree,
          SpellsMember
              (quote member.1.toList ++ ':' :: (gap ++ write (depth + 1) member.2)) entry ∧
            textOfUnits? entry.1 = some member.1 ∧ member.2.Writes entry.2 := by
        intro member inside
        obtain ⟨tree, spells, writes⟩ := ih member inside (depth + 1)
        obtain ⟨units, known, runs⟩ := exists_units member.1.toList
        rw [String.ofList_toList] at known
        exact ⟨(units, tree), ⟨_, gap, _, rfl, runs, blank.1.2, spells⟩, known, writes⟩
      obtain ⟨entries, each⟩ := exists_forall₂_iff.mpr eachMember
      refine ⟨.object entries, ?_,
        .object (each.imp fun _ _ all => all.2.1) (each.imp fun _ _ all => all.2.2)⟩
      rw [written]
      refine object_isContainer.spells blank.1.1.1 blank.1.1.2 blank.2 ?_
      rw [List.forall₂_map_left_iff]
      exact each.imp fun _ _ all => all.1

/-! ## Checked trees -/

private theorem ofTree?_array {depth : Nat} {trees : List Tree} {items : List Value}
    (each : List.Forall₂ (fun tree item => ofTree? depth tree = some item) trees items) :
    ofTree? (depth + 1) (.array trees) = some (.array items) :=
  Option.map_eq_some_iff.mpr ⟨items, ofItems?_eq_some_iff.mpr each, rfl⟩

private theorem ofTree?_object {depth : Nat} {entries : List (List TextUnit × Tree)}
    {members : List (String × Value)}
    (each : List.Forall₂ (fun entry member => textOfUnits? entry.1 = some member.1 ∧
      ofTree? depth entry.2 = some member.2) entries members) :
    ofTree? (depth + 1) (.object entries) = some (.object members) :=
  Option.map_eq_some_iff.mpr ⟨members, ofMembers?_eq_some_iff.mpr each, rfl⟩

/-- A value that fits in some depth is whole. -/
theorem Fits.isWhole {depth : Nat} {value : Value} (fits : value.Fits depth) : value.IsWhole := by
  induction fits with
  | null => exact .null
  | bool => exact .bool
  | text => exact .text
  | integer => exact .integer
  | array _ ih => exact .array ih
  | object _ ih => exact .object ih

/-- What is written for a value that fits is checked to be the value. -/
theorem Fits.ofTree?_eq {depth : Nat} {value : Value} {tree : Tree} (fits : value.Fits depth)
    (writes : value.Writes tree) : ofTree? depth tree = some value := by
  induction fits generalizing tree with
  | null =>
      cases writes
      rfl
  | bool =>
      cases writes
      rfl
  | text =>
      obtain _ | _ | known := writes
      exact Option.map_eq_some_iff.mpr ⟨_, known, rfl⟩
  | integer above below =>
      cases writes
      exact Option.map_eq_some_iff.mpr ⟨_, number?_of_integer above below, rfl⟩
  | array _ ih =>
      obtain _ | _ | _ | _ | each := writes
      refine ofTree?_array (((List.forall₂_and_left ..).mpr ⟨ih, each⟩).flip.imp ?_)
      exact fun _ _ both => both.1 both.2
  | object _ ih =>
      obtain _ | _ | _ | _ | _ | ⟨keys, each⟩ := writes
      refine ofTree?_object (List.Forall₂.flip ?_)
      refine keys.mp ?_ ((List.forall₂_and_left ..).mpr ⟨ih, each⟩)
      exact fun _ _ known both => ⟨known, both.1 both.2⟩

/-- The written form of a value spells a tree that is checked to be the value. -/
theorem Fits.exists_spelled {depth : Nat} {value : Value} (fits : value.Fits depth) :
    ∃ tree, Spells value.compact tree ∧ ofTree? depth tree = some value := by
  obtain ⟨tree, spells, writes⟩ := fits.isWhole.exists_spelled compact_laysOut depth
  exact ⟨tree, spells, fits.ofTree?_eq writes⟩

/-! ## Reading what is written -/

section Read

variable {tree : Tree}

/-- What writes a text is read as the text. -/
theorem Writes.text? {content : String} (writes : (Value.text content).Writes tree) :
    Tree.view.text? tree = some content := by
  obtain _ | _ | known := writes
  exact known

/-- What writes a number is read as the number. -/
theorem Writes.natural? {n : Nat} (writes : (ofNat n).Writes tree) : tree.natural? = some n := by
  rw [ofNat] at writes
  cases writes
  have unsigned : ¬ (n : Int) < 0 := Int.not_lt.mpr (Int.natCast_nonneg n)
  rw [Numeral.ofInt, decide_eq_false unsigned, Tree.natural?, Int.natAbs_natCast,
    digitsValue_toDigits]

/-- The items of a list are read one by one. -/
theorem Writes.list? {α β : Type} {items : List α} {write : α → Value} {read : Tree → Option β}
    {result : α → β} (writes : (Value.array (items.map write)).Writes tree)
    (reads : ∀ item ∈ items, ∀ node, (write item).Writes node → read node = some (result item)) :
    Tree.view.list? read tree = some (items.map result) := by
  obtain _ | _ | _ | _ | each := writes
  rw [List.forall₂_map_left_iff] at each
  change List.mapM read _ = _
  rw [mapM_eq_some_iff, List.forall₂_map_right_iff]
  refine (((List.forall₂_and_left ..).mpr ⟨reads, each⟩).flip.imp ?_)
  exact fun _ _ both => both.1 _ both.2

/-- An object is a record with its keys for fields, and each field holds what is written there. -/
theorem Writes.record? {members : List (String × Value)} {names : List String}
    (writes : (Value.object members).Writes tree) (fields : members.map Prod.fst = names)
    (distinct : names.Nodup) :
    ∃ nodes, Tree.view.record? names tree = some (nodes.map some) ∧
      List.Forall₂ Writes (members.map Prod.snd) nodes := by
  obtain _ | _ | _ | _ | _ | @⟨_, entries, keys, each⟩ := writes
  have named : List.Forall₂ (fun name entry => textOfUnits? entry.1 = some name) names entries := by
    rw [← fields, List.forall₂_map_left_iff]
    exact keys
  refine ⟨entries.map Prod.snd, ?_, ?_⟩
  · rw [Tree.view_record?_of_keys named distinct, List.map_map]
    rfl
  · rw [List.forall₂_map_left_iff, List.forall₂_map_right_iff]
    exact each

end Read

end Value

end FlowCheck.Json
