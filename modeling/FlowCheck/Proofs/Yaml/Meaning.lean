import FlowCheck.Proofs.Yaml.Sameness
import FlowCheck.Yaml.Meaning

/-! # What nodes mean

A mapping that a text says has keys that are all different, however deep it lies and whatever
aliases stand for. So the tables of what keys have can be used of every value that is read. A node
without aliases means the same in every document.
-/

namespace FlowCheck.Yaml

namespace Following

variable {α β : Type} {before after : Aliases}

/-- What follows in a sequence of steps comes of each step. -/
theorem run_bind_eq_some_iff {first : Following α} {next : α → Following β} {result : β} :
    (first >>= next).run before = some (result, after) ↔
      ∃ value between, first.run before = some (value, between) ∧
        (next value).run between = some (result, after) := by
  rw [StateT.run_bind, Option.bind_eq_bind, Option.bind_eq_some_iff]
  constructor
  · rintro ⟨⟨value, between⟩, ran, rest⟩
    exact ⟨value, between, ran, rest⟩
  · rintro ⟨value, between, ran, rest⟩
    exact ⟨(value, between), ran, rest⟩

private theorem run_pure_eq_some_iff {value result : α} :
    (pure value : Following α).run before = some (result, after) ↔
      value = result ∧ before = after := by
  change some (value, before) = some (result, after) ↔ _
  rw [Option.some.injEq, Prod.mk.injEq]

private theorem run_failure {result : α} :
    (failure : Following α).run before ≠ some (result, after) := nofun

/-- An answer is given by an option alone. -/
theorem run_elim_eq_some_iff {answer : Option α} {next : α → Following β} {result : β} :
    (answer.elim failure next).run before = some (result, after) ↔
      ∃ value, answer = some value ∧ (next value).run before = some (result, after) := by
  cases answer with
  | none => exact ⟨fun failed => (run_failure failed).elim, nofun⟩
  | some value => simp

/-- What holds of each single result holds of all results of a list. -/
theorem forall_of_mapM {step : α → Following β} {holds : β → Prop} {items : List α}
    {results : List β}
    (each : ∀ item ∈ items, ∀ {before after result},
      (step item).run before = some (result, after) → holds result)
    (ran : (items.mapM step).run before = some (results, after)) :
    ∀ result ∈ results, holds result := by
  induction items generalizing before after results with
  | nil =>
      rw [List.mapM_nil, run_pure_eq_some_iff] at ran
      rw [← ran.1]
      nofun
  | cons item rest ih =>
      rw [List.forall_mem_cons] at each
      rw [List.mapM_cons, run_bind_eq_some_iff] at ran
      obtain ⟨first, between, isFirst, ran⟩ := ran
      rw [run_bind_eq_some_iff] at ran
      obtain ⟨others, last, isRest, ran⟩ := ran
      obtain ⟨rfl, -⟩ := run_pure_eq_some_iff.mp ran
      exact List.forall_mem_cons.mpr ⟨each.1 isFirst, ih each.2 isRest⟩

/-- Where every step has its result whatever aliases there are, so has a list of them. -/
theorem run_mapM {step : α → Following β} {items : List α} {results : List β}
    (each : List.Forall₂ (fun item result => ∀ aliases,
      (step item).run aliases = some (result, aliases)) items results) (aliases : Aliases) :
    (items.mapM step).run aliases = some (results, aliases) := by
  induction each with
  | nil => rfl
  | cons first _ ih =>
      rw [List.mapM_cons, run_bind_eq_some_iff]
      exact ⟨_, _, first aliases, run_bind_eq_some_iff.mpr ⟨_, _, ih, rfl⟩⟩

end Following

open Following

private theorem proper_withTag {tag : Option Tag} {value : Value} (proper : value.Proper) :
    (withTag tag value).Proper := by
  unfold withTag
  split
  · exact .tagged proper
  · exact proper

/-- A mapping is read only if its keys are all different. -/
theorem distinct?_eq_some {entries result : List (Value × Value)}
    (proper : ∀ entry ∈ entries, entry.1.Proper) (found : distinct? entries = some result) :
    result = entries ∧ KeysDiffer entries := by
  induction entries generalizing result with
  | nil => cases found; exact ⟨rfl, .nil⟩
  | cons entry rest ih =>
      obtain ⟨properEntry, properRest⟩ := List.forall_mem_cons.mp proper
      obtain ⟨others, isRest, checked⟩ := Option.bind_eq_some_iff.mp found
      obtain ⟨rfl, differ⟩ := ih properRest isRest
      rw [Option.ite_none_left_eq_some, List.any_eq_true] at checked
      obtain ⟨alone, same⟩ := checked
      obtain rfl := Option.some.inj same
      refine ⟨rfl, List.pairwise_cons.mpr ⟨fun later inside => ?_, differ⟩⟩
      by_contra again
      rw [Bool.not_eq_false] at again
      exact alone ⟨later, inside, Value.same_symm properEntry again⟩

/-- Only integers are read as integers. -/
theorem integerValue?_proper {text : List Char} {value : Value}
    (read : integerValue? text = some (some value)) : value.Proper := by
  unfold integerValue? at read
  split at read
  case h_1 => cases read; exact .integer _
  all_goals nomatch read

private theorem plainValue?_proper {text : List Char} {value : Value}
    (read : plainValue? text = some value) : value.Proper := by
  unfold plainValue? at read
  split at read
  · cases read; exact .null
  split at read
  · cases read; exact .bool _
  split at read
  next isInteger => exact integerValue?_proper (isInteger.trans (congrArg some read))
  split at read
  · cases read; exact .text _
  split at read
  · cases read; exact .float _
  · cases read; exact .text _

/-- What is read of a scalar is a scalar. -/
theorem scalarValue?_proper {tag : Option Tag} {text : List Char} {form : ScalarForm}
    {value : Value} (read : scalarValue? tag text form = some value) : value.Proper := by
  have asWritten : (if form = .plain then plainValue? text else some (.text (String.ofList text)))
      = some value → value.Proper := by
    intro read
    split at read
    · exact plainValue?_proper read
    · cases read; exact .text _
  match tag with
  | none | some (.own _) | some .unreadable => exact asWritten read
  | some .boolean =>
      obtain ⟨_, -, rfl⟩ := Option.map_eq_some_iff.mp read
      exact .bool _
  | some .integer => exact integerValue?_proper (Option.join_eq_some_iff.mp read)
  | some .float =>
      obtain ⟨_, -, rfl⟩ := Option.map_eq_some_iff.mp read
      exact .float _
  | some .null =>
      cases (Option.ite_none_right_eq_some.mp read).2
      exact .null
  | some .other => cases read; exact .text _

private theorem proper_of_scalarOf {properties : Properties} {text : List Char} {form : ScalarForm}
    {before after : Aliases} {value : Value}
    (read : (scalarOf properties text form).run before = some (value, after)) : value.Proper := by
  obtain ⟨inner, isInner, read⟩ := run_elim_eq_some_iff.mp read
  obtain ⟨rfl, -⟩ := run_pure_eq_some_iff.mp read
  exact proper_withTag (scalarValue?_proper isInner)

/-- A node means a proper value. -/
theorem proper_of_valueOf {depth : Nat} {node : Node} {before after : Aliases} {value : Value}
    (read : (valueOf depth node).run before = some (value, after)) : value.Proper := by
  induction depth generalizing node before after value with
  | zero =>
      obtain ⟨target, between, -, read⟩ := run_bind_eq_some_iff.mp read
      cases target with
      | scalar properties text form => exact proper_of_scalarOf read
      | _ => exact (run_failure read).elim
  | succ depth ih =>
      obtain ⟨target, between, -, read⟩ := run_bind_eq_some_iff.mp read
      cases target with
      | scalar properties text form => exact proper_of_scalarOf read
      | sequence properties items =>
          obtain ⟨values, _, areValues, read⟩ := run_bind_eq_some_iff.mp read
          obtain ⟨rfl, -⟩ := run_pure_eq_some_iff.mp read
          exact proper_withTag (.sequence (forall_of_mapM (fun _ _ => ih) areValues))
      | mapping properties entries =>
          obtain ⟨values, _, areValues, read⟩ := run_bind_eq_some_iff.mp read
          have proper : ∀ entry ∈ values, entry.1.Proper ∧ entry.2.Proper := by
            refine forall_of_mapM (fun entry _ before after result found => ?_) areValues
            obtain ⟨key, _, isKey, found⟩ := run_bind_eq_some_iff.mp found
            obtain ⟨value, _, isValue, found⟩ := run_bind_eq_some_iff.mp found
            obtain ⟨rfl, -⟩ := run_pure_eq_some_iff.mp found
            exact ⟨ih isKey, ih isValue⟩
          obtain ⟨distinct, _, areDistinct, read⟩ := run_bind_eq_some_iff.mp read
          obtain ⟨rfl, -⟩ := run_pure_eq_some_iff.mp read
          rw [run_elim_eq_some_iff] at areDistinct
          obtain ⟨same, isSame, areDistinct⟩ := areDistinct
          obtain ⟨rfl, -⟩ := run_pure_eq_some_iff.mp areDistinct
          have keys : ∀ entry ∈ values, entry.1.Proper :=
            fun entry inside => (proper entry inside).1
          obtain ⟨rfl, differ⟩ := distinct?_eq_some keys isSame
          exact proper_withTag
            (.mapping differ keys fun entry inside => (proper entry inside).2)
      | _ => exact (run_failure read).elim

/-! ## Nodes without aliases -/

/-- A node that nests no deeper than so means the value, whatever aliases there are. -/
def Means (depth : Nat) (node : Node) (value : Value) : Prop :=
  ∀ aliases, (valueOf depth node).run aliases = some (value, aliases)

section Means

variable {depth : Nat}

/-- A scalar without a tag means what its text is read as. -/
theorem means_scalar {text : List Char} {form : ScalarForm} {value : Value}
    (read : scalarValue? none text form = some value) :
    Means depth (.scalar {} text form) value := by
  have isScalar (aliases : Aliases) :
      (scalarOf {} text form).run aliases = some (value, aliases) :=
    run_elim_eq_some_iff.mpr ⟨value, read, rfl⟩
  cases depth <;> exact isScalar

/-- A sequence means what its nodes mean, one level down. -/
theorem means_sequence {nodes : List Node} {values : List Value}
    (each : List.Forall₂ (Means depth) nodes values) :
    Means (depth + 1) (.sequence {} nodes) (.sequence values) := by
  intro aliases
  have items := run_mapM each aliases
  exact run_bind_eq_some_iff.mpr
    ⟨.sequence {} nodes, aliases, rfl, run_bind_eq_some_iff.mpr ⟨values, aliases, items, rfl⟩⟩

/-- A mapping means what its nodes mean, one level down, if no key comes twice. -/
theorem means_mapping {nodes : List (Node × Node)} {values : List (Value × Value)}
    (each : List.Forall₂ (fun node value => Means depth node.1 value.1 ∧ Means depth node.2 value.2)
      nodes values) (distinct : distinct? values = some values) :
    Means (depth + 1) (.mapping {} nodes) (.mapping values) := by
  intro aliases
  have entries : (nodes.mapM fun (node : Node × Node) =>
      return (← valueOf depth node.1, ← valueOf depth node.2)).run aliases =
      some (values, aliases) := by
    refine run_mapM (each.imp fun node value means between => ?_) aliases
    exact run_bind_eq_some_iff.mpr ⟨value.1, between, means.1 between,
      run_bind_eq_some_iff.mpr ⟨value.2, between, means.2 between, rfl⟩⟩
  have known : ((distinct? values).elim failure pure : Following _).run aliases =
      some (values, aliases) := run_elim_eq_some_iff.mpr ⟨values, distinct, rfl⟩
  exact run_bind_eq_some_iff.mpr ⟨.mapping {} nodes, aliases, rfl,
    run_bind_eq_some_iff.mpr ⟨values, aliases, entries,
      run_bind_eq_some_iff.mpr ⟨values, aliases, known, rfl⟩⟩⟩

/-- What a node means is its value. -/
theorem Means.ofNode? {node : Node} {value : Value} (means : Means maxDepth node value) :
    Value.ofNode? node = some value := by
  rw [Value.ofNode?, means]
  rfl

end Means

/-! ## Texts -/

/-- What a text means follows from its tokens, and from the node that these are. -/
theorem Value.ofChars?_eq_some {text : List Char} {tokens : List Token} {node : Node}
    {value : Value} (areTokens : Token.ofChars? text = some tokens)
    (isNode : Node.ofTokens? tokens = some (some node)) (means : Value.ofNode? node = some value) :
    Value.ofChars? text = some value := by
  rw [ofChars?, areTokens]
  exact Option.bind_eq_some_iff.mpr
    ⟨tokens, rfl, Option.bind_eq_some_iff.mpr ⟨some node, isNode, means⟩⟩

/-- Every value that a text says is proper. -/
theorem Value.proper_of_ofChars? {text : List Char} {value : Value}
    (read : Value.ofChars? text = some value) : value.Proper := by
  obtain ⟨tokens, -, read⟩ := Option.bind_eq_some_iff.mp read
  obtain ⟨result, -, read⟩ := Option.bind_eq_some_iff.mp read
  cases result with
  | none => cases read; exact .null
  | some node =>
      obtain ⟨⟨_, _⟩, ran, rfl⟩ := Option.map_eq_some_iff.mp read
      exact proper_of_valueOf ran

end FlowCheck.Yaml
