import FlowCheck.Proofs.Json.Record
import FlowCheck.Response.Reader

/-! # What a text answers

What a value tells of a list of issues is said field by field, each with its rule and its default,
without the reader. And a text has exactly one answer: it is blank, or it has not the shape of a
response, or it tells that the check has passed, or that it has failed with or without a list of
issues. The reader gives that answer for every text.
-/

namespace FlowCheck

namespace Json

/-- What a field that may be missing tells: what its node tells, or else the default. -/
def Told {Node α : Type} (rule : Node → α → Prop) (default : α) : Option Node → α → Prop
  | some node, told => rule node told
  | none, told => told = default

/-- A field is read to what it tells if its node is. -/
theorem fieldOr_eq_some_iff {Node α : Type} {read : Node → Option α} {rule : Node → α → Prop}
    (reads : ∀ node told, read node = some told ↔ rule node told) (default told : α)
    (field : Option Node) :
    View.fieldOr read default field = some told ↔ Told rule default field told := by
  cases field with
  | none => exact Option.some_inj.trans eq_comm
  | some node => exact reads node told

namespace Value

/-- A text, where null stands for the empty one. -/
def TellsText (value : Value) (content : String) : Prop :=
  value = text content ∨ value = null ∧ content = ""

/-- A text, where null stands for none. -/
def TellsOptionalText (value : Value) (content : Option String) : Prop :=
  (∃ known, content = some known ∧ value = text known) ∨ value = null ∧ content = none

/-- A number that 64 bits with a sign hold. -/
def TellsNumber (value : Value) (told : Int64) : Prop :=
  value = number (.integer told.toInt)

/-- A list whose items are told one by one, in order. -/
def TellsList {α : Type} (rule : Value → α → Prop) (value : Value) (told : List α) : Prop :=
  ∃ items, value = array items ∧ List.Forall₂ rule items told

/-- The reader of a text or null gives what the value tells. -/
theorem nullableText?_eq_some_iff (value : Value) (content : Option String) :
    view.nullableText? value = some content ↔ value.TellsOptionalText content := by
  cases value <;> simp [View.nullableText?, view, TellsOptionalText, eq_comm]

/-- The reader of a text, empty for null, gives what the value tells. -/
theorem textOrEmpty?_eq_some_iff (value : Value) (content : String) :
    view.textOrEmpty? value = some content ↔ value.TellsText content := by
  cases value <;> simp [View.textOrEmpty?, View.nullableText?, view, TellsText, eq_comm]

/-- The reader of numbers gives what the value tells. -/
theorem int64?_eq_some_iff (value : Value) (told : Int64) :
    view.int64? value = some told ↔ value.TellsNumber told := by
  have lower := told.le_toInt
  have upper := told.toInt_lt
  unfold View.int64? TellsNumber
  rw [Option.bind_eq_some_iff]
  constructor
  · rintro ⟨whole, isWhole, fits⟩
    rw [Option.ite_none_right_eq_some] at fits
    obtain ⟨⟨above, below⟩, same⟩ := fits
    have exact : told.toInt = whole := by
      rw [← Option.some.inj same, Int64.toInt_ofInt_of_le above below]
    rw [exact]
    cases value with
    | number kind =>
        cases kind with
        | integer _ => exact congrArg _ (congrArg _ (Option.some.inj isWhole))
        | real _ => cases isWhole
    | _ => cases isWhole
  · rintro rfl
    refine ⟨told.toInt, rfl, ?_⟩
    rw [if_pos ⟨by omega, by omega⟩, Int64.ofInt_toInt]

/-- The reader of lists gives what the value tells, if that of items does. -/
theorem list?_eq_some_iff {α : Type} {read : Value → Option α} {rule : Value → α → Prop}
    (reads : ∀ value told, read value = some told ↔ rule value told) (value : Value)
    (told : List α) : view.list? read value = some told ↔ value.TellsList rule told := by
  unfold View.list? TellsList
  cases value with
  | array items => simp [view, mapM_eq_some_iff, reads]
  | _ => simp [view]

end Value

end Json

open Json

/-! ## Issues -/

/-- The fields of a fragment. -/
def Fragment.fieldNames : List String :=
  ["descr", "path", "line", "endline", "start", "end"]

/-- The fields of an issue. -/
def Issue.fieldNames : List String :=
  ["message", "level", "kind"]

/-- The fields of a response. -/
def Response.fieldNames : List String :=
  ["passed", "errors"]

/-- A value tells a fragment: a missing text is empty, and so is null; a missing number is zero. -/
structure Fragment.IsTold (value : Value) (fragment : Fragment) : Prop where
  record : value.IsRecord fieldNames
  description : Told Value.TellsText "" (value.field? fieldNames "descr") fragment.description
  path : Told Value.TellsText "" (value.field? fieldNames "path") fragment.path
  startLine : Told Value.TellsNumber 0 (value.field? fieldNames "line") fragment.startLine
  endLine : Told Value.TellsNumber 0 (value.field? fieldNames "endline") fragment.endLine
  startColumn : Told Value.TellsNumber 0 (value.field? fieldNames "start") fragment.startColumn
  endColumn : Told Value.TellsNumber 0 (value.field? fieldNames "end") fragment.endColumn

/-- A value tells an issue: without a message it has no fragments, and a level or kind that is
missing or null is none. -/
structure Issue.IsTold (value : Value) (issue : Issue) : Prop where
  record : value.IsRecord fieldNames
  fragments : Told (Value.TellsList Fragment.IsTold) [] (value.field? fieldNames "message")
    issue.fragments
  level : Told Value.TellsOptionalText none (value.field? fieldNames "level") issue.level
  kind : Told Value.TellsOptionalText none (value.field? fieldNames "kind") issue.kind

/-- A fragment is read from the fields of its record, each with its default. -/
theorem Fragment.read?_of_fields {Node : Type} {view : View Node} {node : Node}
    {field : String → Option Node}
    (fields : view.record? fieldNames node = some (fieldNames.map field))
    (fragment : Fragment) :
    Fragment.read? view node = some fragment ↔
      View.fieldOr view.textOrEmpty? "" (field "descr") = some fragment.description ∧
      View.fieldOr view.textOrEmpty? "" (field "path") = some fragment.path ∧
      View.fieldOr view.int64? 0 (field "line") = some fragment.startLine ∧
      View.fieldOr view.int64? 0 (field "endline") = some fragment.endLine ∧
      View.fieldOr view.int64? 0 (field "start") = some fragment.startColumn ∧
      View.fieldOr view.int64? 0 (field "end") = some fragment.endColumn := by
  change (view.record? fieldNames node).bind _ = _ ↔ _
  rw [fields]
  simp only [fieldNames, List.map_cons, List.map_nil, Option.bind_some, Option.bind_eq_bind,
    Option.bind_eq_some_iff, Option.pure_def, Option.some.injEq]
  constructor
  · rintro ⟨_, description, _, path, _, startLine, _, endLine, _, startColumn, _, endColumn, rfl⟩
    exact ⟨description, path, startLine, endLine, startColumn, endColumn⟩
  · rintro ⟨description, path, startLine, endLine, startColumn, endColumn⟩
    exact ⟨_, description, _, path, _, startLine, _, endLine, _, startColumn, _, endColumn, rfl⟩

/-- An issue is read from the fields of its record, each with its default. -/
theorem Issue.read?_of_fields {Node : Type} {view : View Node} {node : Node}
    {field : String → Option Node}
    (fields : view.record? fieldNames node = some (fieldNames.map field))
    (issue : Issue) :
    Issue.read? view node = some issue ↔
      View.fieldOr (view.list? (Fragment.read? view)) [] (field "message") = some issue.fragments ∧
      View.fieldOr view.nullableText? none (field "level") = some issue.level ∧
      View.fieldOr view.nullableText? none (field "kind") = some issue.kind := by
  change (view.record? fieldNames node).bind _ = _ ↔ _
  rw [fields]
  simp only [fieldNames, List.map_cons, List.map_nil, Option.bind_some, Option.bind_eq_bind,
    Option.bind_eq_some_iff, Option.pure_def, Option.some.injEq]
  constructor
  · rintro ⟨_, fragments, _, level, _, kind, rfl⟩
    exact ⟨fragments, level, kind⟩
  · rintro ⟨fragments, level, kind⟩
    exact ⟨_, fragments, _, level, _, kind, rfl⟩

/-- What is read as a fragment is a record. -/
theorem Fragment.record_of_read? {Node : Type} {view : View Node} {node : Node}
    {fragment : Fragment} (read : Fragment.read? view node = some fragment) :
    ∃ fields, view.record? fieldNames node = some fields := by
  obtain ⟨fields, isRecord, -⟩ := Option.bind_eq_some_iff.mp read
  exact ⟨fields, isRecord⟩

/-- What is no record is not read as a fragment. -/
theorem Fragment.read?_of_no_record {Node : Type} {view : View Node} {node : Node}
    (absent : view.record? fieldNames node = none) : Fragment.read? view node = none := by
  refine Option.eq_none_iff_forall_ne_some.mpr fun fragment read => ?_
  obtain ⟨fields, isRecord⟩ := record_of_read? read
  cases absent.symm.trans isRecord

/-- What is read as an issue is a record. -/
theorem Issue.record_of_read? {Node : Type} {view : View Node} {node : Node} {issue : Issue}
    (read : Issue.read? view node = some issue) :
    ∃ fields, view.record? fieldNames node = some fields := by
  obtain ⟨fields, isRecord, -⟩ := Option.bind_eq_some_iff.mp read
  exact ⟨fields, isRecord⟩

/-- What is no record is not read as an issue. -/
theorem Issue.read?_of_no_record {Node : Type} {view : View Node} {node : Node}
    (absent : view.record? fieldNames node = none) : Issue.read? view node = none := by
  refine Option.eq_none_iff_forall_ne_some.mpr fun issue read => ?_
  obtain ⟨fields, isRecord⟩ := record_of_read? read
  cases absent.symm.trans isRecord

/-- The reader of fragments gives what the value tells. -/
theorem Fragment.read?_eq_some_iff (value : Value) (fragment : Fragment) :
    Fragment.read? Value.view value = some fragment ↔ Fragment.IsTold value fragment := by
  have distinct : fieldNames.Nodup := by decide
  have texts := fieldOr_eq_some_iff Value.textOrEmpty?_eq_some_iff
  have numbers := fieldOr_eq_some_iff Value.int64?_eq_some_iff
  constructor
  · intro read
    obtain ⟨fields, isRecord⟩ := record_of_read? read
    obtain ⟨record, rfl⟩ := (Value.view_record?_eq_some_iff distinct).mp isRecord
    simp only [read?_of_fields isRecord, texts, numbers] at read
    obtain ⟨description, path, startLine, endLine, startColumn, endColumn⟩ := read
    exact ⟨record, description, path, startLine, endLine, startColumn, endColumn⟩
  · rintro ⟨record, description, path, startLine, endLine, startColumn, endColumn⟩
    have isRecord := (Value.view_record?_eq_some_iff distinct).mpr ⟨record, rfl⟩
    simp only [read?_of_fields isRecord, texts, numbers]
    exact ⟨description, path, startLine, endLine, startColumn, endColumn⟩

/-- The reader of issues gives what the value tells. -/
theorem Issue.read?_eq_some_iff (value : Value) (issue : Issue) :
    Issue.read? Value.view value = some issue ↔ Issue.IsTold value issue := by
  have distinct : fieldNames.Nodup := by decide
  have texts := fieldOr_eq_some_iff Value.nullableText?_eq_some_iff
  have lists := fieldOr_eq_some_iff (Value.list?_eq_some_iff Fragment.read?_eq_some_iff)
  constructor
  · intro read
    obtain ⟨fields, isRecord⟩ := record_of_read? read
    obtain ⟨record, rfl⟩ := (Value.view_record?_eq_some_iff distinct).mp isRecord
    simp only [read?_of_fields isRecord, texts, lists] at read
    obtain ⟨fragments, level, kind⟩ := read
    exact ⟨record, fragments, level, kind⟩
  · rintro ⟨record, fragments, level, kind⟩
    have isRecord := (Value.view_record?_eq_some_iff distinct).mpr ⟨record, rfl⟩
    simp only [read?_of_fields isRecord, texts, lists]
    exact ⟨fragments, level, kind⟩

/-- The reader of lists of issues gives what the value tells. -/
theorem Issue.readList?_eq_some_iff (value : Value) (issues : List Issue) :
    Issue.readList? Value.view value = some issues ↔ value.TellsList Issue.IsTold issues :=
  Value.list?_eq_some_iff Issue.read?_eq_some_iff value issues

/-! ## Responses -/

/-- The list of issues that a response holds, whatever that is. Null stands for none. -/
def Response.heldList : Option Tree → Option Tree
  | none | some .null => none
  | some node => some node

/-- A tree has the shape of a response: it tells whether the check has passed, and holds some list
of issues or none. -/
structure Response.HasShape (tree : Tree) (passed : Bool) (list : Option Tree) : Prop where
  record : tree.IsRecord fieldNames
  passed : tree.field? fieldNames "passed" = some (.bool passed)
  list : heldList (tree.field? fieldNames "errors") = list

private theorem Tree.view_bool?_eq_some_iff {tree : Tree} {told : Bool} :
    Tree.view.bool? tree = some told ↔ tree = .bool told := by
  cases tree <;> simp [Tree.view]

/-- The shape of a response, by the fields that its readers get. -/
theorem Response.hasShape_iff {tree : Tree} {passed : Bool} {list : Option Tree} :
    HasShape tree passed list ↔ ∃ isPassed field,
      Tree.view.record? fieldNames tree = some [some isPassed, field] ∧
        Tree.view.bool? isPassed = some passed ∧ heldList field = list := by
  have distinct : fieldNames.Nodup := by decide
  simp only [Tree.view_record?_eq_some_iff distinct, Tree.view_bool?_eq_some_iff]
  constructor
  · rintro ⟨record, told, held⟩
    refine ⟨_, _, ⟨record, ?_⟩, rfl, held⟩
    rw [← told]
    rfl
  · rintro ⟨_, field, ⟨record, same⟩, rfl, held⟩
    obtain ⟨told, same⟩ := List.cons.inj same
    obtain ⟨rfl, -⟩ := List.cons.inj same
    exact ⟨record, told.symm, held⟩

/-- A list of issues is read if there is one. -/
theorem Response.fieldOr_readNullable_eq_some_iff {α : Type} {read : Tree → Option α}
    {field : Option Tree} {issues : Option α} :
    View.fieldOr (readNullable Tree.view read) none field = some issues ↔
      Option.Rel (fun node told => read node = some told) (heldList field) issues := by
  have absent : some none = some issues ↔
      Option.Rel (fun node told => read node = some told) none issues := by
    cases issues <;> simp
  have present : ∀ node, (read node).map some = some issues ↔
      Option.Rel (fun node told => read node = some told) (some node) issues := by
    intro node
    cases issues <;> simp
  match field with
  | none | some .null => exact absent
  | some (.bool _) | some (.number _) | some (.text _) | some (.array _) | some (.object _) =>
      exact present _

/-- What is made of a response, in whichever way its list of issues is read. -/
theorem Response.ofFields_eq_some_iff {α β : Type} {read : Tree → Option α}
    (make : Bool → Option α → β) {tree : Tree} {result : β} :
    (do
      match ← Tree.view.record? fieldNames tree with
      | [some passed, issues] =>
        return make (← Tree.view.bool? passed)
          (← View.fieldOr (readNullable Tree.view read) none issues)
      | _ => none) = some result ↔
      ∃ passed list issues, HasShape tree passed list ∧
        Option.Rel (fun node told => read node = some told) list issues ∧
          make passed issues = result := by
  change (Tree.view.record? fieldNames tree).bind _ = _ ↔ _
  rw [Option.bind_eq_some_iff]
  constructor
  · rintro ⟨fields, isRecord, made⟩
    -- There are two fields, and only without the first of them is nothing made.
    split at made
    · next isPassed field =>
        obtain ⟨passed, told, made⟩ := Option.bind_eq_some_iff.mp made
        obtain ⟨issues, listed, made⟩ := Option.bind_eq_some_iff.mp made
        exact ⟨passed, _, issues, hasShape_iff.mpr ⟨isPassed, field, isRecord, told, rfl⟩,
          fieldOr_readNullable_eq_some_iff.mp listed, Option.some.inj made⟩
    · cases made
  · rintro ⟨passed, list, issues, shape, listed, rfl⟩
    obtain ⟨isPassed, field, isRecord, told, rfl⟩ := hasShape_iff.mp shape
    refine ⟨_, isRecord, ?_⟩
    change (Tree.view.bool? isPassed).bind _ = _
    rw [told, Option.bind_some, fieldOr_readNullable_eq_some_iff.mpr listed]
    rfl

/-- A tree is read without the types of its issues exactly if it has the shape of a response. -/
theorem Response.untyped?_eq_some_iff {tree : Tree} {passed : Bool} {issues : Option Value} :
    Response.untyped? tree = some (passed, issues) ↔ ∃ list, HasShape tree passed list ∧
      Option.Rel (fun node value => Value.ofTree? (maxDepth - 1) node = some value) list
        issues := by
  refine (ofFields_eq_some_iff Prod.mk).trans ⟨?_, ?_⟩
  · rintro ⟨_, list, _, shape, listed, same⟩
    obtain ⟨rfl, rfl⟩ := Prod.mk.inj same
    exact ⟨list, shape, listed⟩
  · rintro ⟨list, shape, listed⟩
    exact ⟨passed, list, issues, shape, listed, rfl⟩

/-! ## Answers -/

/-- Whether a text is a response: a JSON text of its shape. The list of issues, if there is one, can
be any value. It lies in the response, so it may nest as deep as anything but for one level. -/
def IsResponse (raw : String) (passed : Bool) (issues : Option Value) : Prop :=
  ∃ tree list, Tree.ofChars? raw.toList = some tree ∧ Response.HasShape tree passed list ∧
    Option.Rel (fun node value => Value.ofTree? (maxDepth - 1) node = some value) list issues

/-- The answer of a text. -/
inductive Verdict.Answers (raw : String) : Except Failure Verdict → Prop where
  /-- It holds nothing but white space. -/
  | blank (blank : ∀ c ∈ raw.toList, Text.isBlank c = true) : Answers raw (.error .emptyOutput)
  /-- It holds something, but is no response. -/
  | shapeless (marked : ∃ c ∈ raw.toList, Text.isBlank c = false)
      (shapeless : ∀ passed issues, ¬ IsResponse raw passed issues) :
      Answers raw (.error (Response.malformed raw))
  /-- It tells that the check has passed, and holds whatever else. -/
  | passed {issues : Option Value} (marked : ∃ c ∈ raw.toList, Text.isBlank c = false)
      (response : IsResponse raw true issues) : Answers raw (.ok .passed)
  /-- It tells that the check has failed, and not why. -/
  | inconsistent (marked : ∃ c ∈ raw.toList, Text.isBlank c = false)
      (response : IsResponse raw false none) : Answers raw (.error .inconsistentResponse)
  /-- It tells that the check has failed, and why, but not as a list of issues. -/
  | unlisted {value : Value} (marked : ∃ c ∈ raw.toList, Text.isBlank c = false)
      (response : IsResponse raw false (some value))
      (unlisted : ∀ issues, ¬ value.TellsList Issue.IsTold issues) :
      Answers raw (.error (Response.malformed raw))
  /-- It tells that the check has failed, and lists the issues. -/
  | failed {value : Value} {issues : List Issue}
      (marked : ∃ c ∈ raw.toList, Text.isBlank c = false)
      (response : IsResponse raw false (some value))
      (listed : value.TellsList Issue.IsTold issues) : Answers raw (.ok (.failed issues))

section Reading

variable {raw : String}

/-- A blank text is no output. -/
theorem readRaw_of_blank {α : Type} {read : Tree → Option α}
    (blank : ∀ c ∈ raw.toList, Text.isBlank c = true) :
    Response.readRaw read raw = .error .emptyOutput :=
  if_pos (List.all_eq_true.mpr blank)

/-- A text that is not blank is read from its tree, and malformed if that cannot be done. -/
theorem readRaw_of_marked {α : Type} {read : Tree → Option α}
    (marked : ∃ c ∈ raw.toList, Text.isBlank c = false) :
    Response.readRaw read raw =
      match (Tree.ofChars? raw.toList).bind read with
      | some result => .ok result
      | none => .error (Response.malformed raw) := by
  obtain ⟨c, inRaw, notBlank⟩ := marked
  refine if_neg fun blank => ?_
  cases (List.all_eq_true.mp blank c inRaw).symm.trans notBlank

/-- A text is read without the types of its issues exactly if it is a response. -/
theorem untyped?_eq_some_iff_isResponse {passed : Bool} {issues : Option Value} :
    (Tree.ofChars? raw.toList).bind Response.untyped? = some (passed, issues) ↔
      IsResponse raw passed issues := by
  simp only [Option.bind_eq_some_iff, Response.untyped?_eq_some_iff, IsResponse, exists_and_left]

private theorem readRaw_untyped?_of_isResponse {passed : Bool} {issues : Option Value}
    (marked : ∃ c ∈ raw.toList, Text.isBlank c = false)
    (response : IsResponse raw passed issues) :
    Response.readRaw Response.untyped? raw = .ok (passed, issues) := by
  rw [readRaw_of_marked marked, untyped?_eq_some_iff_isResponse.mpr response]

private theorem readRaw_untyped?_of_shapeless (marked : ∃ c ∈ raw.toList, Text.isBlank c = false)
    (shapeless : ∀ passed issues, ¬ IsResponse raw passed issues) :
    Response.readRaw Response.untyped? raw = .error (Response.malformed raw) := by
  rw [readRaw_of_marked marked]
  cases read : (Tree.ofChars? raw.toList).bind Response.untyped? with
  | none => rfl
  | some told => exact (shapeless told.1 told.2 (untyped?_eq_some_iff_isResponse.mp read)).elim

/-- What the reader says follows from any answer of the text. -/
theorem Verdict.Answers.decode_eq {answer : Except Failure Verdict} (answers : Answers raw answer) :
    Verdict.decode raw = answer := by
  unfold Verdict.decode
  cases answers with
  | blank blank =>
      rw [readRaw_of_blank blank]
      rfl
  | shapeless marked shapeless =>
      rw [readRaw_untyped?_of_shapeless marked shapeless]
      rfl
  | passed marked response | inconsistent marked response =>
      rw [readRaw_untyped?_of_isResponse marked response]
      rfl
  | @unlisted value marked response unlisted =>
      rw [readRaw_untyped?_of_isResponse marked response]
      have unread : Issue.readList? Value.view value = none :=
        Option.eq_none_iff_forall_ne_some.mpr fun issues read =>
          unlisted issues ((Issue.readList?_eq_some_iff value issues).mp read)
      simp only [bind, Except.bind, unread]
      rfl
  | @failed value issues marked response listed =>
      rw [readRaw_untyped?_of_isResponse marked response]
      simp only [bind, Except.bind, (Issue.readList?_eq_some_iff value issues).mpr listed]
      rfl

/-- Every text has an answer. -/
theorem Verdict.exists_answer (raw : String) : ∃ answer, Answers raw answer := by
  by_cases blank : ∀ c ∈ raw.toList, Text.isBlank c = true
  · exact ⟨_, .blank blank⟩
  · have marked : ∃ c ∈ raw.toList, Text.isBlank c = false := by
      simpa using blank
    by_cases shaped : ∃ passed issues, IsResponse raw passed issues
    · obtain ⟨passed, issues, response⟩ := shaped
      match passed, issues with
      | true, _ => exact ⟨_, .passed marked response⟩
      | false, none => exact ⟨_, .inconsistent marked response⟩
      | false, some value =>
          by_cases listed : ∃ issues, value.TellsList Issue.IsTold issues
          · obtain ⟨issues, listed⟩ := listed
            exact ⟨_, .failed marked response listed⟩
          · exact ⟨_, .unlisted marked response fun issues told => listed ⟨issues, told⟩⟩
    · exact ⟨_, .shapeless marked fun passed issues response => shaped ⟨passed, issues, response⟩⟩

/-- **Every text has exactly one answer, and the reader gives it.** Output that could not be read is
kept as it was. -/
theorem Verdict.decode_eq_iff (raw : String) :
    (∀ answer, Verdict.decode raw = answer ↔ Answers raw answer) ∧
      ∀ reason kept, Verdict.decode raw = .error (.malformedResponse reason kept) → kept = raw := by
  have answered : ∀ answer, Verdict.decode raw = answer ↔ Answers raw answer := by
    intro answer
    obtain ⟨right, answers⟩ := exists_answer raw
    constructor
    · intro decoded
      obtain rfl := answers.decode_eq.symm.trans decoded
      exact answers
    · exact Verdict.Answers.decode_eq
  refine ⟨answered, fun reason kept malformed => ?_⟩
  cases (answered _).mp malformed with
  | shapeless | unlisted => rfl

example : Verdict.decode
    "\x7b\"passed\":false,\"errors\":[\x7b\"message\":[\x7b\"path\":null\x7d]\x7d]\x7d" =
      .ok (.failed [{ fragments := [{}] }]) := by
  decide +kernel

end Reading

end FlowCheck
