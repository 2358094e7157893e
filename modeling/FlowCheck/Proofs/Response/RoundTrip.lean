import FlowCheck.Proofs.Json.Written
import FlowCheck.Proofs.Response.Agreement
import FlowCheck.Response.Writer

/-! # Responses that are read back

A written response has nothing besides its fields, and no field twice, so the two readers agree on
it. They give the response that was written, with every text, number and absence in its place, and
its verdict.
-/

namespace FlowCheck

open Json

/-! ## What is written fits -/

private theorem Json.Value.fits_int64 (depth : Nat) (told : Int64) :
    (Value.ofInt told.toInt).Fits depth := by
  have lower := told.le_toInt
  have upper := told.toInt_lt
  exact .integer (by omega) (by omega)

private theorem Fragment.toJson_fits (fragment : Fragment) (depth : Nat) :
    fragment.toJson.Fits (depth + 1) := by
  refine .object ?_
  simp only [List.forall_mem_cons]
  exact ⟨.text, .text, Value.fits_int64 .., Value.fits_int64 .., Value.fits_int64 ..,
    Value.fits_int64 .., nofun⟩

private theorem optionalText_fits (key : String) (content : Option String) (depth : Nat) :
    ∀ member ∈ optionalText key content, member.2.Fits depth := by
  cases content with
  | none => exact List.forall_mem_nil _
  | some text => exact List.forall_mem_singleton.mpr .text

private theorem Issue.toJson_fits (issue : Issue) (depth : Nat) :
    issue.toJson.Fits (depth + 3) := by
  refine .object ?_
  rw [List.forall_mem_cons, List.forall_mem_append]
  refine ⟨.array ?_, optionalText_fits _ _ _, optionalText_fits _ _ _⟩
  rw [List.forall_mem_map]
  exact fun fragment _ => fragment.toJson_fits depth

private theorem Issue.listToJson_fits (issues : List Issue) (depth : Nat) :
    (listToJson issues).Fits (depth + 4) := by
  refine .array ?_
  rw [List.forall_mem_map]
  exact fun issue _ => issue.toJson_fits depth

/-- A written response takes five levels at most. -/
theorem Response.toJson_fits (response : Response) (depth : Nat) :
    response.toJson.Fits (depth + 5) := by
  refine .object ?_
  simp only [List.forall_mem_cons]
  refine ⟨.bool, ?_, nofun⟩
  cases response.issues with
  | none => exact .null
  | some issues => exact Issue.listToJson_fits issues depth

/-! ## What is written tells -/

private theorem Json.Value.tellsList_map {α : Type} {rule : Value → α → Prop} {write : α → Value}
    (each : ∀ item, rule (write item) item) (items : List α) :
    TellsList rule (.array (items.map write)) items := by
  refine ⟨_, rfl, ?_⟩
  rw [List.forall₂_map_left_iff, List.forall₂_same]
  exact fun item _ => each item

/-- What is written of a fragment tells it. -/
theorem Fragment.isTold_toJson (fragment : Fragment) : IsTold fragment.toJson fragment where
  record := trivial
  description := .inl rfl
  path := .inl rfl
  startLine := rfl
  endLine := rfl
  startColumn := rfl
  endColumn := rfl

/-- What is written of an issue tells it. -/
theorem Issue.isTold_toJson (issue : Issue) : IsTold issue.toJson issue := by
  obtain ⟨fragments, level, kind⟩ := issue
  have message := Value.tellsList_map Fragment.isTold_toJson fragments
  cases level with
  | none =>
      cases kind with
      | none => exact ⟨trivial, message, rfl, rfl⟩
      | some kind => exact ⟨trivial, message, rfl, .inl ⟨kind, rfl, rfl⟩⟩
  | some level =>
      cases kind with
      | none => exact ⟨trivial, message, .inl ⟨level, rfl, rfl⟩, rfl⟩
      | some kind => exact ⟨trivial, message, .inl ⟨level, rfl, rfl⟩, .inl ⟨kind, rfl, rfl⟩⟩

/-- What is written of a list of issues tells them in order. -/
theorem Issue.listToJson_tells (issues : List Issue) :
    (listToJson issues).TellsList IsTold issues :=
  Value.tellsList_map isTold_toJson issues

/-! ## Nothing is written twice -/

/-- A tree whose value has distinct keys repeats no field. -/
theorem Json.Checks.not_repeats {tree : Tree} {entries : List (String × Value)}
    (checks : Checks tree (.object entries)) (distinct : (entries.map (·.1)).Nodup)
    (names : List String) : ¬ tree.Repeats names := by
  rintro ⟨members, rfl, name, -, twice⟩
  obtain ⟨_, same, paired⟩ := checks.object
  obtain rfl := Value.object.inj same
  have once := List.nodup_iff_count_le_one.mp distinct name
  rw [List.count, List.countP_map, List.countP_eq_length_filter] at once
  rw [(Checks.named paired name).length_eq, List.length_map] at twice
  exact absurd once (Nat.not_le.mpr twice)

/-- What a field of a value holds was checked from what the field holds in the tree. -/
theorem Json.Checks.exists_field {tree : Tree} {value held : Value} (checks : Checks tree value)
    {names : List String} (once : ¬ tree.Repeats names) {name : String} (isField : name ∈ names)
    (holds : value.field? names name = some held) :
    ∃ node, tree.field? names name = some node ∧ Checks node held := by
  have both := checks.field?_rel once isField
  rw [holds] at both
  cases found : tree.field? names name with
  | none =>
      rw [found] at both
      cases both
  | some node =>
      rw [found] at both
      obtain ⟨same⟩ := both
      exact ⟨node, rfl, same⟩

private theorem Fragment.not_repeats {tree : Tree} {fragment : Fragment}
    (checks : Checks tree fragment.toJson) : ¬ tree.Repeats fieldNames :=
  checks.not_repeats (show fieldNames.Nodup by decide) _

private theorem Issue.not_repeats {tree : Tree} {issue : Issue}
    (checks : Checks tree issue.toJson) : ¬ Repeats tree := by
  have distinct : ¬ tree.Repeats fieldNames := by
    refine checks.not_repeats ?_ fieldNames
    obtain ⟨fragments, level, kind⟩ := issue
    cases level <;> cases kind <;> simp [optionalText]
  rintro (twice | ⟨fragments, found, fragment, inside, twice⟩)
  · exact distinct twice
  · have written : issue.toJson.field? fieldNames "message" =
        some (.array (issue.fragments.map Fragment.toJson)) := by
      obtain ⟨fragments, level, kind⟩ := issue
      cases level <;> cases kind <;> rfl
    obtain ⟨_, message, held⟩ := checks.exists_field distinct (by decide) written
    obtain rfl := Option.some.inj (found.symm.trans message)
    obtain ⟨_, same, paired⟩ := held.array
    obtain rfl := Value.array.inj same
    rw [List.forall₂_map_right_iff] at paired
    obtain ⟨_, checks⟩ := exists_forall₂_iff.mp ⟨_, paired⟩ fragment inside
    exact Fragment.not_repeats checks twice

/-- No field in a written list of issues comes twice. -/
theorem Issue.not_listRepeats {tree : Tree} {issues : List Issue}
    (checks : Checks tree (listToJson issues)) : ¬ ListRepeats tree := by
  rintro ⟨items, rfl, item, inside, twice⟩
  obtain ⟨_, same, paired⟩ := checks.array
  obtain rfl := Value.array.inj same
  rw [List.forall₂_map_right_iff] at paired
  obtain ⟨_, checks⟩ := exists_forall₂_iff.mp ⟨_, paired⟩ item inside
  exact not_repeats checks twice

/-! ## Responses -/

private theorem Json.Checks.eq_bool {tree : Tree} {told : Bool}
    (checks : Checks tree (.bool told)) : tree = .bool told := by
  cases tree with
  | bool =>
      obtain ⟨_, checked⟩ := checks
      exact congrArg _ (Value.bool.inj (Option.some.inj checked))
  | null =>
      obtain ⟨_, checked⟩ := checks
      cases checked
  | array =>
      obtain ⟨_, same, -⟩ := checks.array
      cases same
  | object =>
      obtain ⟨_, same, -⟩ := checks.object
      cases same
  | text | number =>
      obtain ⟨_, checked⟩ := checks
      obtain ⟨_, -, same⟩ := Option.map_eq_some_iff.mp checked
      cases same

private theorem Json.Checks.eq_null {tree : Tree} (checks : Checks tree .null) : tree = .null := by
  have isNull := checks.leaf.1
  cases tree with
  | null => rfl
  | _ => cases isNull

private theorem Response.eq_some_of_heldList {field : Option Tree} {node : Tree}
    (held : heldList field = some node) : field = some node := by
  unfold heldList at held
  split at held
  · cases held
  · cases held
  · exact held

/-- The tree of a written response has its shape, and the list of issues is read from it. -/
theorem Response.hasShape_of_checks {tree : Tree} {response : Response}
    (checks : Checks tree response.toJson) :
    ∃ list, HasShape tree response.passed list ∧
      Option.Rel (fun node issues => Issue.readList? Tree.view node = some issues) list
        response.issues := by
  have distinct : ¬ tree.Repeats fieldNames :=
    checks.not_repeats (show fieldNames.Nodup by decide) _
  have record : tree.IsRecord fieldNames := (checks.isRecord_iff _).mpr ⟨trivial, distinct⟩
  obtain ⟨isPassed, issues⟩ := response
  obtain ⟨_, passed, told⟩ := checks.exists_field distinct
    (show "passed" ∈ fieldNames by decide) rfl
  rw [told.eq_bool] at passed
  cases issues with
  | none =>
      obtain ⟨_, errors, held⟩ := checks.exists_field distinct
        (show "errors" ∈ fieldNames by decide) rfl
      refine ⟨none, ⟨record, passed, ?_⟩, .none⟩
      rw [errors, held.eq_null]
      rfl
  | some issues =>
      obtain ⟨node, errors, held⟩ := checks.exists_field distinct
        (show "errors" ∈ fieldNames by decide) rfl
      have read : Issue.readList? Tree.view node = some issues :=
        (Issue.readList?_tree_eq_some_iff held).mpr
          ⟨Issue.listToJson_tells issues, Issue.not_listRepeats held⟩
      obtain ⟨items, rfl, -⟩ := Tree.list?_eq_some read
      exact ⟨some (.array items), ⟨record, passed, by rw [errors]; rfl⟩, .some read⟩

/-- A response that passes as a whole holds nothing that is no value. -/
theorem not_holdsUnchecked_of_passes {raw : String} {tree : Tree}
    (isTree : Tree.ofChars? raw.toList = some tree) (passes : tree.Passes maxDepth) :
    ¬ HoldsUnchecked raw := by
  rintro ⟨passed, node, issues, ⟨-, other, isOther, shape⟩, read, level, extra, overlooked, fails⟩
  obtain rfl := Option.some.inj (isTree.symm.trans isOther)
  have distinct : Response.fieldNames.Nodup := by decide
  have held : tree.field? Response.fieldNames "errors" = some node := by
    exact Response.eq_some_of_heldList shape.list
  have inside := ((shape.record.passes_iff distinct).mp passes).1 "errors" (by decide) node held
  exact fails ((Issue.list_passes_iff read).mp inside level extra overlooked)

/-- **What is written is read back.** A response is had back whole from its written form, and so is
its verdict, whatever its texts and numbers are and whichever of its parts are absent. -/
theorem Response.read_write (response : Response) :
    Response.parse response.write = .ok response ∧
      Verdict.decode response.write = response.verdict := by
  obtain ⟨tree, spells, checked⟩ := (response.toJson_fits 122).exists_spelled
  have isTree : Tree.ofChars? response.write.toList = some tree := by
    rw [write, String.toList_ofList, spells.ofChars?]
  have marked : ∃ c ∈ response.write.toList, Text.isBlank c = false := by
    rw [write, String.toList_ofList]
    exact ⟨'{', List.mem_cons_self, rfl⟩
  have parsed : Response.parse response.write = .ok response :=
    parse_of_read marked isTree
      (ofTree?_eq_some_iff.mpr (hasShape_of_checks ⟨_, checked⟩))
  exact ⟨parsed, decode_of_checked (not_holdsUnchecked_of_passes isTree ⟨_, checked⟩) parsed⟩

example : Response.write ⟨false, some [{ kind := some "\x01\"" }]⟩ =
    "\x7b\"passed\":false,\"errors\":[\x7b\"message\":[],\"kind\":\"\\u0001\\\"\"\x7d]\x7d" := by
  decide +kernel

end FlowCheck
