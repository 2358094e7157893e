import FlowCheck.Proofs.Json.Checked
import FlowCheck.Proofs.Response.Verdict

/-! # The two readers of responses

A response is read whole from its tree, or its verdict is read and the list of issues goes through a
value. The two part in two cases only: where the list holds something besides all fields that is no
value, which only the second looks at, and where a field of an issue comes twice, which only the
first minds.
-/

namespace FlowCheck

open Json

/-! ## Lists of issues -/

section Alike

variable {tree : Tree} {value : Value}

/-- A fragment without repetitions reads the same in a tree and in its value. -/
theorem Fragment.read?_alike (checks : Checks tree value) (once : ¬ tree.Repeats fieldNames) :
    Fragment.read? Tree.view tree = Fragment.read? Value.view value := by
  have distinct : fieldNames.Nodup := by decide
  have texts : ∀ name ∈ fieldNames,
      View.fieldOr Tree.view.textOrEmpty? "" (tree.field? fieldNames name) =
        View.fieldOr Value.view.textOrEmpty? "" (value.field? fieldNames name) :=
    fun name isField => fieldOr_congr (checks.field?_rel once isField)
      fun _ _ _ held => held.textOrEmpty?
  have numbers : ∀ name ∈ fieldNames,
      View.fieldOr Tree.view.int64? 0 (tree.field? fieldNames name) =
        View.fieldOr Value.view.int64? 0 (value.field? fieldNames name) :=
    fun name isField => fieldOr_congr (checks.field?_rel once isField)
      fun _ _ _ held => held.int64?
  rcases checks.view_record? distinct once with ⟨here, there⟩ | ⟨here, there⟩
  · refine Option.ext fun fragment => ?_
    rw [read?_of_fields here, read?_of_fields there, texts "descr" (by decide),
      texts "path" (by decide), numbers "line" (by decide), numbers "endline" (by decide),
      numbers "start" (by decide), numbers "end" (by decide)]
  · rw [read?_of_no_record here, read?_of_no_record there]

private theorem Fragment.read?_of_repeats (repeats : tree.Repeats fieldNames) :
    Fragment.read? Tree.view tree = none := by
  have distinct : fieldNames.Nodup := by decide
  exact read?_of_no_record (Tree.view_record?_of_repeats distinct repeats)

/-- Whether a field comes twice in an issue or in one of its fragments. -/
def Issue.Repeats (tree : Tree) : Prop :=
  tree.Repeats fieldNames ∨
    ∃ fragments, tree.field? fieldNames "message" = some (.array fragments) ∧
      ∃ fragment ∈ fragments, fragment.Repeats Fragment.fieldNames

/-- An issue without repetitions reads the same in a tree and in its value. -/
theorem Issue.read?_alike (checks : Checks tree value) (once : ¬ Repeats tree) :
    Issue.read? Tree.view tree = Issue.read? Value.view value := by
  have distinct : fieldNames.Nodup := by decide
  obtain ⟨inIssue, inFragments⟩ := not_or.mp once
  have texts : ∀ name ∈ fieldNames,
      View.fieldOr Tree.view.nullableText? none (tree.field? fieldNames name) =
        View.fieldOr Value.view.nullableText? none (value.field? fieldNames name) :=
    fun name isField => fieldOr_congr (checks.field?_rel inIssue isField)
      fun _ _ _ held => held.nullableText?
  have fragments : View.fieldOr (Tree.view.list? (Fragment.read? Tree.view)) []
      (tree.field? fieldNames "message") =
        View.fieldOr (Value.view.list? (Fragment.read? Value.view)) []
          (value.field? fieldNames "message") := by
    refine fieldOr_congr (checks.field?_rel inIssue (by decide)) fun node found _ held => ?_
    refine held.list? fun items isArray item inside _ checks => Fragment.read?_alike checks ?_
    exact fun repeats => inFragments ⟨items, isArray ▸ found, item, inside, repeats⟩
  rcases checks.view_record? distinct inIssue with ⟨here, there⟩ | ⟨here, there⟩
  · refine Option.ext fun issue => ?_
    rw [read?_of_fields here, read?_of_fields there, fragments, texts "level" (by decide),
      texts "kind" (by decide)]
  · rw [read?_of_no_record here, read?_of_no_record there]

private theorem Issue.read?_of_repeats (repeats : Repeats tree) :
    Issue.read? Tree.view tree = none := by
  have distinct : fieldNames.Nodup := by decide
  rcases repeats with twice | ⟨fragments, found, fragment, inside, twice⟩
  · exact read?_of_no_record (Tree.view_record?_of_repeats distinct twice)
  · refine Option.eq_none_iff_forall_ne_some.mpr fun issue read => ?_
    obtain ⟨fields, isRecord⟩ := record_of_read? read
    obtain ⟨-, rfl⟩ := (Tree.view_record?_eq_some_iff distinct).mp isRecord
    obtain ⟨message, -⟩ := (read?_of_fields isRecord issue).mp read
    rw [found] at message
    cases (mapM_eq_none inside (Fragment.read?_of_repeats twice)).symm.trans message

end Alike

/-- Whether a field comes twice in a list of issues. -/
def Issue.ListRepeats (node : Tree) : Prop :=
  ∃ items, node = .array items ∧ ∃ item ∈ items, Repeats item

/-- A checked list of issues is read from its tree if its value tells one and no field comes twice.
-/
theorem Issue.readList?_tree_eq_some_iff {node : Tree} {value : Value} (checks : Checks node value)
    {issues : List Issue} :
    readList? Tree.view node = some issues ↔
      value.TellsList IsTold issues ∧ ¬ ListRepeats node := by
  rw [← readList?_eq_some_iff]
  by_cases repeats : ListRepeats node
  · obtain ⟨items, rfl, item, inside, twice⟩ := repeats
    have unread : readList? Tree.view (.array items) = none :=
      mapM_eq_none inside (read?_of_repeats twice)
    rw [unread]
    exact iff_of_false nofun fun both => both.2 ⟨items, rfl, item, inside, twice⟩
  · have alike : readList? Tree.view node = readList? Value.view value :=
      checks.list? fun items isArray item inside _ checks =>
        read?_alike checks fun twice => repeats ⟨items, isArray, item, inside, twice⟩
    rw [alike, and_iff_left repeats]

/-! ## What nobody reads -/

/-- What a list of issues holds besides all fields, with the number of arrays and objects around it.
-/
inductive Issue.Overlooked : Tree → Nat → Tree → Prop where
  | ofIssue {items : List Tree} {item extra : Tree} (inList : item ∈ items)
      (besides : extra ∈ item.extras fieldNames) : Overlooked (.array items) 2 extra
  | ofFragment {items fragments : List Tree} {item fragment extra : Tree} (inList : item ∈ items)
      (message : item.field? fieldNames "message" = some (.array fragments))
      (inMessage : fragment ∈ fragments)
      (besides : extra ∈ fragment.extras Fragment.fieldNames) :
      Overlooked (.array items) 4 extra

/-- A fragment that is read can be checked exactly if what else it holds can be. -/
theorem Fragment.passes_iff {tree : Tree} {fragment : Fragment}
    (read : Fragment.read? Tree.view tree = some fragment) {depth : Nat} :
    tree.Passes (depth + 1) ↔ ∀ extra ∈ tree.extras fieldNames, extra.Passes depth := by
  have distinct : fieldNames.Nodup := by decide
  obtain ⟨fields, isRecord⟩ := record_of_read? read
  obtain ⟨record, rfl⟩ := (Tree.view_record?_eq_some_iff distinct).mp isRecord
  obtain ⟨description, path, startLine, endLine, startColumn, endColumn⟩ :=
    (read?_of_fields isRecord fragment).mp read
  have fields : ∀ name ∈ fieldNames, ∀ node, tree.field? fieldNames name = some node →
      node.Passes depth := by
    simp only [fieldNames, List.forall_mem_cons]
    exact ⟨Tree.passes_of_fieldOr description Tree.passes_of_textOrEmpty?,
      Tree.passes_of_fieldOr path Tree.passes_of_textOrEmpty?,
      Tree.passes_of_fieldOr startLine Tree.passes_of_int64?,
      Tree.passes_of_fieldOr endLine Tree.passes_of_int64?,
      Tree.passes_of_fieldOr startColumn Tree.passes_of_int64?,
      Tree.passes_of_fieldOr endColumn Tree.passes_of_int64?, List.forall_mem_nil _⟩
  rw [record.passes_iff distinct, and_iff_right fields]

/-- An issue that is read can be checked exactly if what else it and its fragments hold can be. -/
theorem Issue.passes_iff {tree : Tree} {issue : Issue}
    (read : Issue.read? Tree.view tree = some issue) {depth : Nat} :
    tree.Passes (depth + 3) ↔ (∀ extra ∈ tree.extras fieldNames, extra.Passes (depth + 2)) ∧
      ∀ fragments, tree.field? fieldNames "message" = some (.array fragments) →
        ∀ fragment ∈ fragments, ∀ extra ∈ fragment.extras Fragment.fieldNames,
          extra.Passes depth := by
  have distinct : fieldNames.Nodup := by decide
  obtain ⟨fields, isRecord⟩ := record_of_read? read
  obtain ⟨record, rfl⟩ := (Tree.view_record?_eq_some_iff distinct).mp isRecord
  obtain ⟨message, level, kind⟩ := (read?_of_fields isRecord issue).mp read
  have fields : (∀ name ∈ fieldNames, ∀ node, tree.field? fieldNames name = some node →
      node.Passes (depth + 2)) ↔ ∀ node, tree.field? fieldNames "message" = some node →
        node.Passes (depth + 2) := by
    simp only [fieldNames, List.forall_mem_cons]
    exact and_iff_left ⟨Tree.passes_of_fieldOr level Tree.passes_of_nullableText?,
      Tree.passes_of_fieldOr kind Tree.passes_of_nullableText?, List.forall_mem_nil _⟩
  rw [record.passes_iff distinct, fields, and_comm]
  refine and_congr_right' ?_
  -- Texts pass once they are read. The message was read too, but its fragments hold extras.
  cases found : tree.field? fieldNames "message" with
  | none => simp
  | some node =>
      rw [found] at message
      obtain ⟨items, rfl, each⟩ := Tree.list?_eq_some message
      simp only [Option.some.injEq, forall_eq', Tree.array.injEq, Tree.passes_array_iff]
      refine forall₂_congr fun item inside => ?_
      obtain ⟨_, isFragment⟩ := each item inside
      exact Fragment.passes_iff isFragment

/-- A list of issues that is read from its tree passes if everything besides all fields does. -/
theorem Issue.list_passes_iff {node : Tree} {issues : List Issue}
    (read : readList? Tree.view node = some issues) {depth : Nat} :
    node.Passes (depth + 4) ↔
      ∀ level extra, Overlooked node level extra → extra.Passes (depth + 4 - level) := by
  obtain ⟨items, rfl, each⟩ := Tree.list?_eq_some read
  rw [Tree.passes_array_iff]
  constructor
  · rintro passes level extra (⟨inList, besides⟩ | ⟨inList, message, inMessage, besides⟩)
    all_goals
      obtain ⟨_, isIssue⟩ := each _ inList
      obtain ⟨inIssue, inFragments⟩ := (passes_iff isIssue).mp (passes _ inList)
    · exact inIssue extra besides
    · exact inFragments _ message _ inMessage extra besides
  · intro extras item inside
    obtain ⟨_, isIssue⟩ := each item inside
    refine (passes_iff isIssue).mpr ⟨fun extra besides => ?_, ?_⟩
    · exact extras 2 extra (.ofIssue inside besides)
    · intro fragments message fragment inMessage extra besides
      exact extras 4 extra (.ofFragment inside message inMessage besides)

/-! ## Responses -/

/-- A tree has the shape of one response only. -/
theorem Response.HasShape.unique {tree : Tree} {passed told : Bool} {list node : Option Tree}
    (shape : HasShape tree passed list) (other : HasShape tree told node) :
    passed = told ∧ list = node := by
  refine ⟨?_, shape.list.symm.trans other.list⟩
  injection Option.some.inj (shape.passed.symm.trans other.passed)

/-- A response is read whole if its list of issues is. -/
theorem Response.ofTree?_eq_some_iff {tree : Tree} {response : Response} :
    Response.ofTree? tree = some response ↔ ∃ list, HasShape tree response.passed list ∧
      Option.Rel (fun node issues => Issue.readList? Tree.view node = some issues) list
        response.issues := by
  refine (ofFields_eq_some_iff Response.mk).trans ⟨?_, ?_⟩
  · rintro ⟨_, list, _, shape, listed, rfl⟩
    exact ⟨list, shape, listed⟩
  · rintro ⟨list, shape, listed⟩
    exact ⟨_, list, _, shape, listed, rfl⟩

/-- The verdict of a response: issues count only when the check failed, and then there have to be
some. -/
def Response.verdict : Response → Except Failure Verdict
  | ⟨true, _⟩ => .ok .passed
  | ⟨false, none⟩ => .error .inconsistentResponse
  | ⟨false, some issues⟩ => .ok (.failed issues)

/-- The two readers agree on a text: where the first reads a response, the second gives its verdict,
and where the first fails, the second fails alike or has not looked at the issues. -/
structure ReadersAgree (raw : String) : Prop where
  accepted : ∀ response, Response.parse raw = .ok response → Verdict.decode raw = response.verdict
  rejected : ∀ failure, Response.parse raw = .error failure →
    Verdict.decode raw = .error failure ∨ Verdict.decode raw = .ok .passed

/-- A text is a response that holds something as its list of issues. -/
def HoldsList (raw : String) (passed : Bool) (node : Tree) : Prop :=
  (∃ c ∈ raw.toList, Text.isBlank c = false) ∧
    ∃ tree, Tree.ofChars? raw.toList = some tree ∧ Response.HasShape tree passed (some node)

/-- A text lists issues beside something that is no value. -/
def HoldsUnchecked (raw : String) : Prop :=
  ∃ passed node issues, HoldsList raw passed node ∧ Issue.readList? Tree.view node = some issues ∧
    ∃ level extra, Issue.Overlooked node level extra ∧ ¬ extra.Passes (maxDepth - 1 - level)

/-- A text tells that the check has failed and lists issues in which a field comes twice. -/
def HoldsRepeated (raw : String) (issues : List Issue) : Prop :=
  ∃ node value, HoldsList raw false node ∧ Value.ofTree? (maxDepth - 1) node = some value ∧
    value.TellsList Issue.IsTold issues ∧ Issue.ListRepeats node

section Readers

variable {raw : String}

private theorem parse_of_unread (marked : ∃ c ∈ raw.toList, Text.isBlank c = false)
    (unread : ∀ tree, Tree.ofChars? raw.toList = some tree → Response.ofTree? tree = none) :
    Response.parse raw = .error (Response.malformed raw) := by
  have nothing : (Tree.ofChars? raw.toList).bind Response.ofTree? = none :=
    Option.bind_eq_none_iff.mpr unread
  rw [Response.parse, readRaw_of_marked marked, nothing]

/-- A text that is read as a response gives it. -/
theorem parse_of_read (marked : ∃ c ∈ raw.toList, Text.isBlank c = false) {tree : Tree}
    (isTree : Tree.ofChars? raw.toList = some tree) {response : Response}
    (read : Response.ofTree? tree = some response) : Response.parse raw = .ok response := by
  rw [Response.parse, readRaw_of_marked marked, isTree, Option.bind_some, read]

/-- A text that is read whole is not blank, and has a tree that is read. -/
theorem parse_eq_ok {response : Response} (parsed : Response.parse raw = .ok response) :
    (∃ c ∈ raw.toList, Text.isBlank c = false) ∧
      ∃ tree, Tree.ofChars? raw.toList = some tree ∧ Response.ofTree? tree = some response := by
  have marked : ∃ c ∈ raw.toList, Text.isBlank c = false := by
    by_contra blank
    rw [Response.parse, readRaw_of_blank (by simpa using blank)] at parsed
    cases parsed
  refine ⟨marked, Option.bind_eq_some_iff.mp ?_⟩
  rw [Response.parse, readRaw_of_marked marked] at parsed
  split at parsed
  · next read => rw [read, Except.ok.inj parsed]
  · cases parsed

/-- Where something besides the fields is no value, the second reader fails alone. -/
theorem HoldsUnchecked.readers (unchecked : HoldsUnchecked raw) :
    (∃ response, Response.parse raw = .ok response) ∧
      Verdict.decode raw = .error (Response.malformed raw) := by
  obtain ⟨passed, node, issues, ⟨marked, tree, isTree, shape⟩, read, level, extra, overlooked,
    fails⟩ := unchecked
  constructor
  · refine ⟨⟨passed, some issues⟩, parse_of_read marked isTree ?_⟩
    exact Response.ofTree?_eq_some_iff.mpr ⟨_, shape, .some read⟩
  · refine Verdict.Answers.decode_eq (.shapeless marked ?_)
    rintro told held ⟨other, list, sameTree, otherShape, checked⟩
    obtain rfl := Option.some.inj (isTree.symm.trans sameTree)
    obtain ⟨-, rfl⟩ := shape.unique otherShape
    obtain ⟨checks⟩ := checked
    exact fails ((Issue.list_passes_iff read).mp ⟨_, checks⟩ level extra overlooked)

/-- Where a field comes twice, the first reader fails alone. -/
theorem HoldsRepeated.readers {issues : List Issue} (repeated : HoldsRepeated raw issues) :
    Response.parse raw = .error (Response.malformed raw) ∧
      Verdict.decode raw = .ok (.failed issues) := by
  obtain ⟨node, value, ⟨marked, tree, isTree, shape⟩, checks, listed, twice⟩ := repeated
  constructor
  · refine parse_of_unread marked fun other sameTree => ?_
    obtain rfl := Option.some.inj (isTree.symm.trans sameTree)
    refine Option.eq_none_iff_forall_ne_some.mpr fun response read => ?_
    obtain ⟨list, otherShape, readable⟩ := Response.ofTree?_eq_some_iff.mp read
    obtain ⟨-, rfl⟩ := shape.unique otherShape
    generalize response.issues = found at readable
    obtain ⟨readList⟩ := readable
    exact ((Issue.readList?_tree_eq_some_iff ⟨_, checks⟩).mp readList).2 twice
  · exact Verdict.Answers.decode_eq
      (.failed marked ⟨tree, _, isTree, shape, .some checks⟩ listed)

/-- Every response whose list of issues is nothing but its fields is read alike. -/
theorem decode_of_checked (checked : ¬ HoldsUnchecked raw) {response : Response}
    (parsed : Response.parse raw = .ok response) : Verdict.decode raw = response.verdict := by
  obtain ⟨marked, tree, isTree, read⟩ := parse_eq_ok parsed
  obtain ⟨list, shape, readable⟩ := Response.ofTree?_eq_some_iff.mp read
  obtain ⟨passed, issues⟩ := response
  cases readable with
  | none =>
      have isResponse : IsResponse raw passed none := ⟨tree, none, isTree, shape, .none⟩
      cases passed with
      | true => exact (Verdict.Answers.passed marked isResponse).decode_eq
      | false => exact (Verdict.Answers.inconsistent marked isResponse).decode_eq
  | @some node issues readList =>
      have passes : node.Passes (maxDepth - 1) := by
        refine (Issue.list_passes_iff readList).mpr fun level extra overlooked => ?_
        by_contra fails
        exact checked ⟨passed, node, issues, ⟨marked, tree, isTree, shape⟩, readList, level, extra,
          overlooked, fails⟩
      obtain ⟨value, checks⟩ := passes
      have isResponse : IsResponse raw passed (some value) :=
        ⟨tree, _, isTree, shape, .some checks⟩
      cases passed with
      | true => exact (Verdict.Answers.passed marked isResponse).decode_eq
      | false =>
          obtain ⟨listed, -⟩ := (Issue.readList?_tree_eq_some_iff ⟨_, checks⟩).mp readList
          exact (Verdict.Answers.failed marked isResponse listed).decode_eq

/-- Every failure of the first reader is one of the second, if the second looks at the issues and no
field comes twice. -/
theorem decode_of_unrepeated (once : ∀ issues, ¬ HoldsRepeated raw issues) {failure : Failure}
    (failed : Response.parse raw = .error failure) :
    Verdict.decode raw = .error failure ∨ Verdict.decode raw = .ok .passed := by
  obtain ⟨answer, answers⟩ := Verdict.exists_answer raw
  rw [answers.decode_eq]
  have unread : ∀ {response}, Response.parse raw ≠ .ok response := by
    intro response parsed
    cases failed.symm.trans parsed
  have malformed : (∃ c ∈ raw.toList, Text.isBlank c = false) →
      failure = Response.malformed raw := by
    intro marked
    rw [parse_of_unread marked fun tree isTree => Option.eq_none_iff_forall_ne_some.mpr
      fun response read => unread (parse_of_read marked isTree read)] at failed
    exact (Except.error.inj failed).symm
  -- Of the answers, only the last two tell of a text whose tree the first reader might still read.
  cases answers with
  | blank blank =>
      rw [Response.parse, readRaw_of_blank blank] at failed
      exact .inl (congrArg _ (Except.error.inj failed))
  | shapeless marked | unlisted marked => exact .inl (congrArg _ (malformed marked).symm)
  | passed => exact .inr rfl
  | inconsistent marked response =>
      obtain ⟨tree, list, isTree, shape, ⟨⟩⟩ := response
      have read : Response.ofTree? tree = some ⟨false, none⟩ :=
        Response.ofTree?_eq_some_iff.mpr ⟨none, shape, .none⟩
      exact (unread (parse_of_read marked isTree read)).elim
  | @failed value issues marked response listed =>
      obtain ⟨tree, list, isTree, shape, checked⟩ := response
      obtain @⟨node, _, checks⟩ := checked
      have readList : Issue.readList? Tree.view node = some issues := by
        refine (Issue.readList?_tree_eq_some_iff ⟨_, checks⟩).mpr ⟨listed, fun twice => ?_⟩
        exact once issues ⟨node, value, ⟨marked, tree, isTree, shape⟩, checks, listed, twice⟩
      have read : Response.ofTree? tree = some ⟨false, some issues⟩ :=
        Response.ofTree?_eq_some_iff.mpr ⟨some node, shape, .some readList⟩
      exact (unread (parse_of_read marked isTree read)).elim

/-- **The two readers agree on a text unless it lists issues beside something that is no value, or
lists them with a field that comes twice.** In the first case the second reader fails although
nobody asked for what it stumbles on, and in the second case it gives issues that the first refuses.
-/
theorem readersAgree_iff (raw : String) :
    (ReadersAgree raw ↔ ¬ HoldsUnchecked raw ∧ ∀ issues, ¬ HoldsRepeated raw issues) ∧
      (HoldsUnchecked raw → (∃ response, Response.parse raw = .ok response) ∧
        Verdict.decode raw = .error (Response.malformed raw)) ∧
      ∀ issues, HoldsRepeated raw issues →
        Response.parse raw = .error (Response.malformed raw) ∧
          Verdict.decode raw = .ok (.failed issues) := by
  refine ⟨⟨fun agree => ⟨fun unchecked => ?_, fun issues repeated => ?_⟩, ?_⟩,
    HoldsUnchecked.readers, fun _ => HoldsRepeated.readers⟩
  · obtain ⟨⟨response, parsed⟩, decoded⟩ := unchecked.readers
    have agreed := (agree.accepted response parsed).symm.trans decoded
    match response with
    | ⟨true, _⟩ | ⟨false, none⟩ | ⟨false, some _⟩ => cases agreed
  · obtain ⟨parsed, decoded⟩ := repeated.readers
    rcases agree.rejected _ parsed with malformed | passed
    · cases decoded.symm.trans malformed
    · cases decoded.symm.trans passed
  · rintro ⟨checked, once⟩
    exact ⟨fun _ => decode_of_checked checked, fun _ => decode_of_unrepeated once⟩

/-- A failed response whose only issue holds, besides its fields, a number that no type holds. -/
def overlookedNumber : String :=
  "\x7b\"passed\":false,\"errors\":[\x7b\"flowVersion\":1e999\x7d]\x7d"

/-- A failed response whose only issue has two kinds. -/
def repeatedKind : String :=
  "\x7b\"passed\":false,\"errors\":[\x7b\"kind\":\"a\",\"kind\":\"b\"\x7d]\x7d"

/-- A number that nobody asks for makes the second reader fail, and a kind that comes twice makes
the first one fail. -/
theorem readers_part : ¬ ReadersAgree overlookedNumber ∧ ¬ ReadersAgree repeatedKind := by
  constructor
  · intro agree
    have decoded := agree.accepted ⟨false, some [{}]⟩ (by decide +kernel)
    revert decoded
    decide +kernel
  · intro agree
    have decoded := agree.rejected (Response.malformed repeatedKind) (by decide +kernel)
    revert decoded
    decide +kernel

end Readers

end FlowCheck
