import FlowCheck.Proofs.Json.Edit
import FlowCheck.Proofs.Response.RoundTrip
import Mathlib.Logic.Relation

/-! # Responses presented differently

How a response is presented does not matter: the order of its members, members that it does not
declare, and fields that hold their defaults. Each edit of the presentation leaves what is read from
the response as it was, whether in the response itself, in an issue or in a fragment, and so do any
number of edits in a row. The two readers then agree with themselves as long as everything that
nobody reads is a value.
-/

namespace FlowCheck

open Json

/-! ## Edits of the presentation -/

/-- The fields that may be left out of a fragment: an empty text, null for one, and zero. -/
inductive Fragment.Omissible : String → Tree → Prop
  | null {name : String} (isText : name ∈ ["descr", "path"]) : Omissible name .null
  | empty {name : String} (isText : name ∈ ["descr", "path"]) : Omissible name (.text [])
  | zero {name : String} {numeral : Numeral}
      (isCoordinate : name ∈ ["line", "endline", "start", "end"])
      (isZero : numeral.number? = some (.integer 0)) : Omissible name (.number numeral)

/-- The fields that may be left out of an issue. -/
inductive Issue.Omissible : String → Tree → Prop
  | null {name : String} (isText : name ∈ ["level", "kind"]) : Omissible name .null
  | nothing : Omissible "message" (.array [])

/-- The field that may be left out of a response. -/
def Response.Omissible (name : String) (node : Tree) : Prop :=
  name = "errors" ∧ node = .null

/-- An edit of a fragment. -/
def Fragment.Edit : Tree → Tree → Prop :=
  Tree.RecordEdit fieldNames Omissible

/-- An edit of an issue or of one of its fragments. -/
inductive Issue.Edit : Tree → Tree → Prop
  | record {tree edited : Tree} (edit : Tree.RecordEdit fieldNames Omissible tree edited) :
      Edit tree edited
  | fragment {tree edited : Tree} (edit : Tree.ItemEdit "message" Fragment.Edit tree edited) :
      Edit tree edited

/-- An edit of a response or of one of its issues. -/
inductive Response.Edit : Tree → Tree → Prop
  | record {tree edited : Tree} (edit : Tree.RecordEdit fieldNames Omissible tree edited) :
      Edit tree edited
  | issue {tree edited : Tree} (edit : Tree.ItemEdit "errors" Issue.Edit tree edited) :
      Edit tree edited

/-! ## What is read after an edit -/

section Reading

variable {tree edited node : Tree} {name : String}

private theorem Fragment.Omissible.textOrEmpty? (omitted : Omissible name node)
    (isText : name ∈ ["descr", "path"]) : Tree.view.textOrEmpty? node = some "" := by
  cases omitted with
  | null | empty => rfl
  | zero isCoordinate =>
      -- No field is a text and a coordinate.
      simp only [List.mem_cons, List.not_mem_nil, or_false] at isText
      rcases isText with rfl | rfl <;> simp at isCoordinate

private theorem Fragment.Omissible.int64? (omitted : Omissible name node)
    (isCoordinate : name ∈ ["line", "endline", "start", "end"]) :
    Tree.view.int64? node = some 0 := by
  cases omitted with
  | zero _ isZero => simp [View.int64?, Tree.view, isZero]
  | null isText | empty isText =>
      simp only [List.mem_cons, List.not_mem_nil, or_false] at isText
      rcases isText with rfl | rfl <;> simp at isCoordinate

/-- An edited fragment is read as it was. -/
theorem Fragment.read?_of_edit (edit : Edit tree edited) {fragment : Fragment}
    (read : Fragment.read? Tree.view tree = some fragment) :
    Fragment.read? Tree.view edited = some fragment := by
  have distinct : fieldNames.Nodup := by decide
  obtain ⟨fields, isRecord⟩ := record_of_read? read
  obtain ⟨record, rfl⟩ := (Tree.view_record?_eq_some_iff distinct).mp isRecord
  obtain ⟨stillRecord, keeps⟩ := Tree.RecordEdit.keeps edit record
  have isStill := (Tree.view_record?_eq_some_iff distinct).mpr ⟨stillRecord, rfl⟩
  have texts : ∀ name ∈ ["descr", "path"],
      View.fieldOr Tree.view.textOrEmpty? "" (edited.field? fieldNames name) =
        View.fieldOr Tree.view.textOrEmpty? "" (tree.field? fieldNames name) := by
    intro name isText
    apply (keeps name _).fieldOr_eq
    · intro node omitted
      exact omitted.textOrEmpty? isText
    · revert name
      decide
  have numbers : ∀ name ∈ ["line", "endline", "start", "end"],
      View.fieldOr Tree.view.int64? 0 (edited.field? fieldNames name) =
        View.fieldOr Tree.view.int64? 0 (tree.field? fieldNames name) := by
    intro name isCoordinate
    apply (keeps name _).fieldOr_eq
    · intro node omitted
      exact omitted.int64? isCoordinate
    · revert name
      decide
  rw [read?_of_fields isStill, texts "descr" (by decide), texts "path" (by decide),
    numbers "line" (by decide), numbers "endline" (by decide), numbers "start" (by decide),
    numbers "end" (by decide)]
  exact (read?_of_fields isRecord fragment).mp read

private theorem Issue.Omissible.nullableText? (omitted : Omissible name node)
    (isText : name ∈ ["level", "kind"]) : Tree.view.nullableText? node = some none := by
  cases omitted with
  | null => rfl
  | nothing => simp at isText

/-- An edited issue is read as it was. -/
theorem Issue.read?_of_edit (edit : Edit tree edited) {issue : Issue}
    (read : Issue.read? Tree.view tree = some issue) :
    Issue.read? Tree.view edited = some issue := by
  have distinct : fieldNames.Nodup := by decide
  obtain ⟨fields, isRecord⟩ := record_of_read? read
  obtain ⟨record, rfl⟩ := (Tree.view_record?_eq_some_iff distinct).mp isRecord
  have reads := (read?_of_fields isRecord issue).mp read
  cases edit with
  | record edit =>
      obtain ⟨stillRecord, keeps⟩ := edit.keeps record
      have isStill := (Tree.view_record?_eq_some_iff distinct).mpr ⟨stillRecord, rfl⟩
      have texts : ∀ name ∈ ["level", "kind"],
          View.fieldOr Tree.view.nullableText? none (edited.field? fieldNames name) =
            View.fieldOr Tree.view.nullableText? none (tree.field? fieldNames name) := by
        intro name isText
        apply (keeps name _).fieldOr_eq
        · intro node omitted
          exact omitted.nullableText? isText
        · revert name
          decide
      have message : View.fieldOr (Tree.view.list? (Fragment.read? Tree.view)) []
          (edited.field? fieldNames "message") =
            View.fieldOr (Tree.view.list? (Fragment.read? Tree.view)) []
              (tree.field? fieldNames "message") := by
        apply (keeps "message" (by decide)).fieldOr_eq
        intro node omitted
        cases omitted with
        | null isText => simp at isText
        | nothing => rfl
      rw [read?_of_fields isStill, message, texts "level" (by decide), texts "kind" (by decide)]
      exact reads
  | fragment edit =>
      obtain ⟨stillRecord, same, items, item, later, changed, edits, held, holds⟩ :=
        edit.keeps record (by decide)
      have isStill := (Tree.view_record?_eq_some_iff distinct).mpr ⟨stillRecord, rfl⟩
      obtain ⟨message, level, kind⟩ := reads
      rw [held] at message
      rw [read?_of_fields isStill, holds, same "level" (by decide) (by decide),
        same "kind" (by decide) (by decide)]
      refine ⟨?_, level, kind⟩
      apply Tree.list?_of_item _ message
      intro fragment isRead
      exact Fragment.read?_of_edit edits isRead

private theorem Response.heldList_of_keeps {field other : Option Tree}
    (keeps : Tree.Keeps (Omissible "errors") field other) : heldList other = heldList field := by
  cases keeps with
  | kept => rfl
  | omitted omitted =>
      obtain ⟨-, rfl⟩ := omitted
      rfl

/-- An edited response is read as it was. -/
theorem Response.ofTree?_of_edit (edit : Edit tree edited) {response : Response}
    (read : Response.ofTree? tree = some response) :
    Response.ofTree? edited = some response := by
  rw [ofTree?_eq_some_iff] at read ⊢
  obtain ⟨list, ⟨record, passed, held⟩, listed⟩ := read
  cases edit with
  | record edit =>
      obtain ⟨stillRecord, keeps⟩ := edit.keeps record
      refine ⟨list, ⟨stillRecord, ?_, ?_⟩, listed⟩
      · have needed : ∀ node, ¬ Omissible "passed" node := by
          intro node omitted
          exact absurd omitted.1 (by decide)
        rw [(keeps "passed" (by decide)).eq_of_needed needed, passed]
      · rw [heldList_of_keeps (keeps "errors" (by decide)), held]
  | issue edit =>
      obtain ⟨stillRecord, same, items, item, later, changed, edits, was, holds⟩ :=
        edit.keeps record (by decide)
      rw [was] at held
      subst held
      generalize response.issues = issues at listed
      cases listed with
      | some isRead =>
          refine ⟨_, ⟨stillRecord, ?_, rfl⟩, ?_⟩
          · rw [same "passed" (by decide) (by decide), passed]
          · rw [holds]
            apply Option.Rel.some
            apply Tree.list?_of_item _ isRead
            intro issue isRead
            exact Issue.read?_of_edit edits isRead

/-- Any number of edits leaves a response as it is read. -/
theorem Response.ofTree?_of_edits (edits : Relation.ReflTransGen Edit tree edited)
    {response : Response} (read : Response.ofTree? tree = some response) :
    Response.ofTree? edited = some response := by
  induction edits with
  | refl => exact read
  | tail _ edit ih => exact ofTree?_of_edit edit ih

end Reading

/-! ## Main result -/

private theorem beginValue_of_isBlank {c : Char} (blank : Text.isBlank c = true)
    (stack : List Frame) : beginValue stack c = none := by
  have ne : ∀ {other : Char}, Text.isBlank other = false → c ≠ other := by
    rintro other marked rfl
    cases blank.symm.trans marked
  have noDigit : c.isDigit = false := by
    have outside : ¬ (48 ≤ c.toNat ∧ c.toNat ≤ 57) := by
      simp only [Text.isBlank, Bool.or_eq_true, Bool.and_eq_true, decide_eq_true_eq] at blank
      omega
    simpa [Char.isDigit, UInt32.le_iff_toNat_le] using outside
  rw [beginValue, if_neg (ne rfl), if_neg (ne rfl), if_neg (ne rfl), if_neg (ne rfl),
    if_neg (ne rfl), if_neg (ne rfl), NumeralDraft.start?, if_neg (ne rfl), if_neg (ne rfl),
    if_neg (by simp [noDigit]), Option.map_none]

/-- White space alone is no JSON text. -/
theorem marked_of_ofChars? {chars : List Char} {tree : Tree}
    (isTree : Tree.ofChars? chars = some tree) : ∃ c ∈ chars, Text.isBlank c = false := by
  by_contra unmarked
  have blank : ∀ c ∈ chars, Text.isBlank c = true := by simpa using unmarked
  -- The reader skips the white space that JSON knows and stops at any other.
  have stays : Reader.start.run chars = some Reader.start ∨ Reader.start.run chars = none := by
    clear isTree unmarked
    induction chars with
    | nil => exact .inl rfl
    | cons c chars ih =>
        rw [List.forall_mem_cons] at blank
        rw [Reader.run_cons]
        by_cases skipped : isBlank c = true
        · have step : Reader.start.step c = some Reader.start := if_pos skipped
          rw [step, Option.bind_some]
          exact ih blank.2
        · have step : Reader.start.step c = none :=
            (if_neg skipped).trans (beginValue_of_isBlank blank.1 [])
          exact .inr (by rw [step, Option.bind_none])
  rcases stays with here | failed
  · rw [Tree.ofChars?, here] at isTree
    cases isTree
  · rw [Tree.ofChars?, failed] at isTree
    cases isTree

/-- **The presentation of a response does not matter.** If one text is a response and another text
is that response after any number of edits of its presentation, then both are read as the same
response, and both give the same verdict as long as everything in them is a value. -/
theorem Response.readers_of_edits {raw other : String} {tree edited : Tree}
    (isTree : Tree.ofChars? raw.toList = some tree)
    (isEdited : Tree.ofChars? other.toList = some edited)
    (edits : Relation.ReflTransGen Edit tree edited) (passes : tree.Passes maxDepth)
    (stillPasses : edited.Passes maxDepth) {response : Response}
    (parsed : Response.parse raw = .ok response) :
    Response.parse other = .ok response ∧ Verdict.decode other = Verdict.decode raw := by
  obtain ⟨-, same, isSame, read⟩ := parse_eq_ok parsed
  obtain rfl := Option.some.inj (isTree.symm.trans isSame)
  have again : Response.parse other = .ok response :=
    parse_of_read (marked_of_ofChars? isEdited) isEdited (ofTree?_of_edits edits read)
  refine ⟨again, ?_⟩
  rw [decode_of_checked (not_holdsUnchecked_of_passes isTree passes) parsed,
    decode_of_checked (not_holdsUnchecked_of_passes isEdited stillPasses) again]

/-- A key or a text without escapes. -/
def plainUnits (content : String) : List TextUnit :=
  content.toList.map .character

/-- A response with every default written out. -/
def fullText : String :=
  "\x7b\"passed\":false,\"errors\":[\x7b\"kind\":null,\"message\":[\x7b\"descr\":\"x\"," ++
    "\"path\":null,\"line\":0\x7d]\x7d]\x7d"

/-- The same response in another order, without defaults, and with a version that nobody reads. -/
def shortText : String :=
  "\x7b\"flowVersion\":[\"0\"],\"errors\":[\x7b\"message\":[\x7b\"descr\":\"x\"\x7d]\x7d]," ++
    "\"passed\":false\x7d"

/-- What the two texts spell: a response with one issue of one fragment, and with other members. -/
def issueOf (inIssue inFragment : List (List TextUnit × Tree)) : Tree :=
  .array [.object (inIssue ++ [(plainUnits "message",
    .array [.object ((plainUnits "descr", .text (plainUnits "x")) :: inFragment)])])]

/-- Three defaults go, the members of the response change places, and one comes in. -/
theorem Response.readers_of_edits_of_defaults :
    let response : Response := ⟨false, some [⟨[{ description := "x" }], none, none⟩]⟩
    ∃ tree edited, Tree.ofChars? fullText.toList = some tree ∧
      Tree.ofChars? shortText.toList = some edited ∧ Relation.ReflTransGen Edit tree edited ∧
      tree.Passes maxDepth ∧ edited.Passes maxDepth ∧ Response.parse fullText = .ok response ∧
      Response.parse shortText = .ok response ∧
      Verdict.decode shortText = Verdict.decode fullText := by
  intro response
  let passed := (plainUnits "passed", Tree.bool false)
  let kind := (plainUnits "kind", Tree.null)
  let path := (plainUnits "path", Tree.null)
  let line := (plainUnits "line", Tree.number ⟨false, ['0'], [], none⟩)
  let version := (plainUnits "flowVersion", Tree.array [.text (plainUnits "0")])
  let errors := fun inIssue inFragment => (plainUnits "errors", issueOf inIssue inFragment)
  have inFragment : ∀ {old new : List (List TextUnit × Tree)},
      Fragment.Edit (.object ((plainUnits "descr", .text (plainUnits "x")) :: old))
        (.object ((plainUnits "descr", .text (plainUnits "x")) :: new)) →
      Edit (.object [passed, errors [kind] old]) (.object [passed, errors [kind] new]) := by
    intro old new edit
    exact .issue (.item [passed] [] [] [] rfl (.fragment (.item [kind] [] [] [] rfl edit)))
  have withoutPath : Edit (.object [passed, errors [kind] [path, line]])
      (.object [passed, errors [kind] [line]]) :=
    inFragment (.remove [_] [line] rfl (.null (by decide)))
  have withoutLine : Edit (.object [passed, errors [kind] [line]])
      (.object [passed, errors [kind] []]) :=
    inFragment (.remove [_] [] rfl (.zero (by decide) (by decide)))
  have withoutKind : Edit (.object [passed, errors [kind] []])
      (.object [passed, errors [] []]) :=
    .issue (.item [passed] [] [] [] rfl (.record (.remove [] _ rfl (.null (by decide)))))
  have turned : Edit (.object [passed, errors [] []]) (.object [errors [] [], passed]) :=
    .record (.permute (.swap ..))
  have versioned : Edit (.object [errors [] [], passed])
      (.object [version, errors [] [], passed]) :=
    .record (.insert [] _ rfl (by decide) _)
  have edits : Relation.ReflTransGen Edit (.object [passed, errors [kind] [path, line]])
      (.object [version, errors [] [], passed]) :=
    ((((Relation.ReflTransGen.single withoutPath).tail withoutLine).tail withoutKind).tail
      turned).tail versioned
  have isTree : Tree.ofChars? fullText.toList =
      some (.object [passed, errors [kind] [path, line]]) := rfl
  have isEdited : Tree.ofChars? shortText.toList =
      some (.object [version, errors [] [], passed]) := rfl
  have passes : (Tree.object [passed, errors [kind] [path, line]]).Passes maxDepth := ⟨_, rfl⟩
  have stillPasses : (Tree.object [version, errors [] [], passed]).Passes maxDepth := ⟨_, rfl⟩
  have parsed : Response.parse fullText = .ok response := by decide +kernel
  exact ⟨_, _, isTree, isEdited, edits, passes, stillPasses, parsed,
    readers_of_edits isTree isEdited edits passes stillPasses parsed⟩

end FlowCheck
