import FlowCheck.Proofs.Yaml.Overlay

/-! # Overlaying merges key by key

Whatever the order in which the entries of two mappings stand and are changed, what a key has after
one was laid over the other depends on what it had in each of them, and on nothing else. Mappings
keep different keys meanwhile, at every depth, so the same can be said of any number of documents
that are laid over each other.
-/

namespace FlowCheck.Yaml

open Value

/-- What a key has where one mapping is laid over another, from what it has below and above. -/
def overlaidAt : Option Value → Option Value → Option Value
  | below, none => below
  | none, some value => if value.isNull then none else some value
  | some below, some value => if value.isNull then none else some (overlay below value)

/-- A value is what two come to, one laid over the other: the upper one if either is no mapping, and
otherwise a mapping in which each key has what it has from below and above. -/
structure Value.Merges (base top merged : Value) : Prop where
  proper : merged.Proper
  replaced : (∀ entries, base ≠ .mapping entries) ∨ (∀ changes, top ≠ .mapping changes) →
    merged = top
  keys : ∀ entries changes, base = .mapping entries → top = .mapping changes →
    ∃ result, merged = .mapping result ∧ ∀ key,
      valueAt? result key = overlaidAt (valueAt? entries key) (valueAt? changes key)

/-- What a key has in overlaid entries depends on what it has in the entries and in the changes. -/
theorem valueAt?_overlayEntries_eq {entries changes : List (Value × Value)}
    (table : IsTable entries) (top : IsTable changes) (key : Value) :
    valueAt? (overlayEntries entries changes) key =
      overlaidAt (valueAt? entries key) (valueAt? changes key) := by
  rw [valueAt?_overlayEntries table top]
  cases valueAt? changes key with
  | none => rw [overlaidAt]
  | some value =>
      cases valueAt? entries key with
      | none => simp only [overlaidAt, Option.getD_none, overlay_null]
      | some below => rfl

/-- One step: proper values merge, and to a proper value. -/
theorem Value.Proper.merges {base top : Value} (properBase : base.Proper) (proper : top.Proper) :
    base.Merges top (Yaml.overlay base top) where
  proper := properBase.overlay proper
  replaced := by
    rintro (below | above)
    · exact overlay_over_not_mapping below
    · exact overlay_of_not_mapping above
  keys := by
    rintro entries changes rfl rfl
    have table := (proper_mapping_iff.mp properBase).1
    have top := (proper_mapping_iff.mp proper).1
    exact ⟨_, overlay_mapping entries changes, valueAt?_overlayEntries_eq table top⟩

/-- Proper documents that are laid over a proper value, one after the other, stay proper. -/
theorem Value.Proper.foldl_overlay {base : Value} {documents : List Value}
    (properBase : base.Proper) (proper : ∀ document ∈ documents, document.Proper) :
    (documents.foldl Yaml.overlay base).Proper := by
  induction documents generalizing base with
  | nil => exact properBase
  | cons document rest ih =>
      obtain ⟨first, others⟩ := List.forall_mem_cons.mp proper
      exact ih (properBase.overlay first) others

/-- Mappings that are laid over a mapping, one after the other, come to a mapping in which each key
has what it has from all of them in turn. -/
theorem exists_foldl_overlay {entries : List (Value × Value)} {layers : List (List (Value × Value))}
    (table : IsTable entries) (tables : ∀ layer ∈ layers, IsTable layer) :
    ∃ result, (layers.map Value.mapping).foldl overlay (.mapping entries) = .mapping result ∧
      ∀ key, valueAt? result key =
        layers.foldl (fun below layer => overlaidAt below (valueAt? layer key))
          (valueAt? entries key) := by
  induction layers generalizing entries with
  | nil => exact ⟨entries, rfl, fun key => rfl⟩
  | cons layer rest ih =>
      obtain ⟨first, others⟩ := List.forall_mem_cons.mp tables
      obtain ⟨result, same, keys⟩ := ih (table.overlayEntries first.proper) others
      refine ⟨result, ?_, fun key => ?_⟩
      · rw [List.map_cons, List.foldl_cons, overlay_mapping, same]
      · rw [keys, valueAt?_overlayEntries_eq table first, List.foldl_cons]

/-- **Overlaying merges key by key.** Where every mapping has different keys, two values come to one
in which every mapping has different keys again: to the upper one if either is no mapping, and else
to a mapping whose keys have what they had below if nothing is said above, nothing if there is a
null above, the overlay of both if both say something, and what is said above if only that is said.
So does every further document with what the ones before it have come to, and after mappings alone
each key has what it has from all of them in turn. -/
theorem overlay_merges {base top : Value} {documents : List Value} (properBase : base.Proper)
    (properTop : top.Proper) (proper : ∀ document ∈ documents, document.Proper) :
    base.Merges top (overlay base top) ∧
    (∀ before next after, documents = before ++ next :: after →
      (before.foldl overlay (overlay base top)).Merges next
        ((before ++ [next]).foldl overlay (overlay base top))) ∧
    ∀ (merged : List (Value × Value)) (layers : List (List (Value × Value))),
      overlay base top = .mapping merged → documents = layers.map .mapping →
      ∃ result, documents.foldl overlay (overlay base top) = .mapping result ∧
        ∀ key, valueAt? result key =
          layers.foldl (fun below layer => overlaidAt below (valueAt? layer key))
            (valueAt? merged key) := by
  have properFirst := properBase.overlay properTop
  refine ⟨properBase.merges properTop, ?_, ?_⟩
  · rintro before next after rfl
    obtain ⟨properBefore, properRest⟩ := List.forall_mem_append.mp proper
    rw [List.foldl_concat]
    exact (properFirst.foldl_overlay properBefore).merges (properRest next List.mem_cons_self)
  · rintro merged layers first rfl
    rw [first] at properFirst ⊢
    refine exists_foldl_overlay (proper_mapping_iff.mp properFirst).1 fun layer inside => ?_
    exact (proper_mapping_iff.mp (proper _ (List.mem_map_of_mem inside))).1

/-- A mapping of names, all different, to proper values is proper. -/
theorem proper_of_names (fields : List (String × Value)) (distinct : (fields.map (·.1)).Nodup)
    (values : ∀ field ∈ fields, field.2.Proper) :
    (Value.mapping (fields.map fun field => (.text field.1, field.2))).Proper := by
  have differ : KeysDiffer (fields.map fun field => (.text field.1, field.2)) := by
    rw [KeysDiffer, List.pairwise_map]
    refine (List.pairwise_map.mp distinct).imp fun different => ?_
    rw [same, beq_eq_false_iff_ne]
    exact different
  exact .mapping differ (List.forall_mem_map.mpr fun _ _ => .text _)
    (List.forall_mem_map.mpr values)

/-- Three documents: the second takes a key within a key away, and another key by a null with a tag;
the third takes away what the second has added. -/
theorem overlay_merges_of_nulls :
    let base : Value := .mapping
      [(.text "k", .mapping [(.text "a", .integer 1), (.text "b", .integer 2)]),
        (.text "c", .bool true)]
    let top : Value := .mapping
      [(.text "k", .mapping [(.text "a", .null)]), (.text "c", .tagged "t" .null),
        (.text "d", .integer 3)]
    let last : List (Value × Value) := [(.text "d", .null)]
    base.Merges top (overlay base top) ∧
      ∃ result, overlay (overlay base top) (.mapping last) = .mapping result ∧
        valueAt? result (.text "k") = some (.mapping [(.text "b", .integer 2)]) ∧
        valueAt? result (.text "c") = none ∧ valueAt? result (.text "d") = none := by
  intro base top last
  have one : (mapping [(.text "a", .integer 1), (.text "b", .integer 2)]).Proper :=
    proper_of_names [("a", .integer 1), ("b", .integer 2)] (by decide)
      (by simp [Proper.integer])
  have properBase : base.Proper :=
    proper_of_names [("k", _), ("c", .bool true)] (by decide)
      (by simp [one, Proper.bool])
  have two : (mapping [(.text "a", .null)]).Proper :=
    proper_of_names [("a", .null)] (by decide) (by simp [Proper.null])
  have properTop : top.Proper :=
    proper_of_names [("k", _), ("c", .tagged "t" .null), ("d", .integer 3)] (by decide)
      (by simp [two, Proper.tagged, Proper.null, Proper.integer])
  have properLast : ∀ document ∈ [mapping last], document.Proper :=
    List.forall_mem_singleton.mpr
      (proper_of_names [("d", .null)] (by decide) (by simp [Proper.null]))
  obtain ⟨merges, -, keys⟩ := overlay_merges properBase properTop properLast
  obtain ⟨result, same, at?⟩ := keys _ [last] rfl rfl
  exact ⟨merges, result, same, by rw [at?]; rfl, by rw [at?]; rfl, by rw [at?]; rfl⟩

end FlowCheck.Yaml
