import FlowCheck.Proofs.Settings.Reader
import Mathlib.Data.List.Induction

/-! # Where the faults of merged settings come from

Every entry of a mapping that documents were merged to comes from one of them: it has the value that
is there, or both are mappings. No value of a field is a mapping, and a key is read as the same text
wherever it stands. So what the documents come to can be read as settings if each of them can,
unless two of them spell one field's key in two ways.
-/

namespace FlowCheck

open Yaml

/-! ## Where a merged entry comes from -/

/-- An entry comes from one of some documents: a mapping that has the same key, with the same value
or, if that was merged, with a mapping. -/
def ComesFrom (documents : List Value) (entry : Value × Value) : Prop :=
  ∃ own, .mapping own ∈ documents ∧ ∃ source ∈ own, source.1.same entry.1 = true ∧
    (source.2 = entry.2 ∨
      ∃ below above, source.2 = .mapping below ∧ entry.2 = .mapping above)

section Origin

variable {documents : List Value} {entry : Value × Value}

private theorem ComesFrom.mono (origin : ComesFrom documents entry) (top : Value) :
    ComesFrom (documents ++ [top]) entry := by
  obtain ⟨own, inside, rest⟩ := origin
  exact ⟨own, List.mem_append_left _ inside, rest⟩

private theorem ComesFrom.congr (origin : ComesFrom documents entry) {other : Value × Value}
    (alike : entry.1.same other.1 = true) (value : entry.2 = other.2) :
    ComesFrom documents other := by
  obtain ⟨own, inside, source, member, same, values⟩ := origin
  rw [value] at values
  exact ⟨own, inside, source, member, Value.same_trans same alike, values⟩

private theorem ComesFrom.of_mem {own : List (Value × Value)} (inside : .mapping own ∈ documents)
    (member : entry ∈ own) : ComesFrom documents entry :=
  ⟨own, inside, entry, member, Value.same_refl _, .inl rfl⟩

/-- One step: an entry after a mapping was laid over another was there before, or comes from what
was laid over it. -/
theorem ComesFrom.of_overlayEntries {entries changes : List (Value × Value)}
    (table : IsTable entries) (top : IsTable changes)
    (sources : ∀ entry ∈ entries, ComesFrom documents entry)
    (inside : entry ∈ overlayEntries entries changes) :
    ComesFrom (documents ++ [.mapping changes]) entry := by
  have found := (table.overlayEntries top.proper).valueAt?_of_mem inside
  rw [valueAt?_overlayEntries table top] at found
  split at found
  · obtain ⟨old, member, alike, value⟩ := table.valueAt?_eq_some_iff.mp found
    exact ((sources old member).congr alike value).mono _
  · next value said =>
      obtain ⟨change, member, alike, rfl⟩ := top.valueAt?_eq_some_iff.mp said
      split at found
      · cases found
      · refine ⟨changes, List.mem_concat_self, change, member, alike, ?_⟩
        rw [← Option.some.inj found]
        exact (overlay_cases _ change.2).imp_left Eq.symm

/-- Documents laid over each other come to one of them, or to a mapping whose entries all come from
them. -/
theorem overlaid_cases (proper : ∀ document ∈ documents, document.Proper) :
    documents.foldl overlay (.mapping []) ∈ documents ∨
      ∃ entries, documents.foldl overlay (.mapping []) = .mapping entries ∧ IsTable entries ∧
        ∀ entry ∈ entries, ComesFrom documents entry := by
  induction documents using List.reverseRecOn with
  | nil => exact .inr ⟨[], rfl, ⟨.nil, nofun⟩, nofun⟩
  | append_singleton documents top ih =>
      obtain ⟨properBelow, properTop⟩ := List.forall_mem_append.mp proper
      rw [List.forall_mem_singleton] at properTop
      rw [List.foldl_concat]
      have replaced {merged : Value} (same : merged = top) : merged ∈ documents ++ [top] :=
        same ▸ List.mem_concat_self
      -- Entries are merged only where both are mappings; otherwise the last document is all.
      by_cases above : ∃ changes, top = .mapping changes
      · by_cases below : ∃ entries, documents.foldl overlay (.mapping []) = .mapping entries
        · right
          obtain ⟨changes, rfl⟩ := above
          obtain ⟨entries, merged⟩ := below
          have tableTop := (Value.proper_mapping_iff.mp properTop).1
          obtain ⟨table, sources⟩ :
              IsTable entries ∧ ∀ entry ∈ entries, ComesFrom documents entry := by
            rcases ih properBelow with whole | ⟨others, same, table, sources⟩
            · rw [merged] at whole
              exact ⟨(Value.proper_mapping_iff.mp (properBelow _ whole)).1,
                fun _ inside => .of_mem whole inside⟩
            · obtain rfl := Value.mapping.inj (merged.symm.trans same)
              exact ⟨table, sources⟩
          exact ⟨_, by rw [merged, overlay_mapping], table.overlayEntries tableTop.proper,
            fun entry inside => .of_overlayEntries table tableTop sources inside⟩
        · exact .inl (replaced (overlay_over_not_mapping (not_exists.mp below)))
      · exact .inl (replaced (overlay_of_not_mapping (not_exists.mp above)))

end Origin

/-! ## What makes a value no settings -/

private theorem textValue?_congr {key other : Value} (alike : key.same other = true) :
    textValue? key = textValue? other := by
  induction key using Value.induction_on_parts generalizing other with
  | null | bool | integer | text =>
      obtain rfl := Value.eq_of_same (by trivial) alike
      rfl
  | float =>
      obtain ⟨_, rfl, -⟩ := Value.exists_of_same_float alike
      rfl
  | sequence =>
      obtain ⟨_, rfl, -⟩ := Value.exists_of_same_sequence alike
      rfl
  | mapping =>
      obtain ⟨_, rfl, -⟩ := Value.exists_of_same_mapping alike
      rfl
  | tagged tag value ih =>
      obtain ⟨_, inside, rfl, -, alike⟩ := Value.exists_of_same_tagged alike
      have same : textValue? value = textValue? inside := ih alike
      exact same

/-- The entries whose key is a text, tags aside. -/
def mentions (entries : List (Value × Value)) (name : String) : List (Value × Value) :=
  entries.filter fun entry => textValue? entry.1 = some name

section Fields

variable {entries : List (Value × Value)} {layer : Layer} {name : String} {α : Type}
  {read : Value → Option α} {default : α}

private theorem keyedEntries?_filter (keyed : keyedEntries? entries = some layer) (name : String) :
    layer.filter (fun entry => entry.1 = name) =
      (mentions entries name).map fun entry => (name, entry.2) := by
  induction entries generalizing layer with
  | nil =>
      obtain rfl := Option.some.inj keyed
      rfl
  | cons entry rest ih =>
      rw [keyedEntries?, List.mapM_cons] at keyed
      obtain ⟨named, isNamed, keyed⟩ := Option.bind_eq_some_iff.mp keyed
      obtain ⟨others, areNamed, keyed⟩ := Option.bind_eq_some_iff.mp keyed
      obtain ⟨key, isText, isNamed⟩ := Option.bind_eq_some_iff.mp isNamed
      obtain rfl := Option.some.inj isNamed
      obtain rfl := Option.some.inj keyed
      have later := ih areNamed
      rw [mentions] at later ⊢
      by_cases here : key = name
      · subst here
        simp [isText, later]
      · simp [isText, later, here]

/-- A field can be read of entries if its key comes at most once, and with a value of its type. -/
theorem isSome_fieldValue?_iff (keyed : keyedEntries? entries = some layer) :
    (fieldValue? layer name read default).isSome = true ↔
      (mentions entries name).length ≤ 1 ∧
        ∀ entry ∈ mentions entries name, (read entry.2).isSome = true := by
  rw [fieldValue?, keyedEntries?_filter keyed]
  cases mentions entries name with
  | nil => simp
  | cons first rest =>
      cases rest with
      | nil => simp
      | cons second rest => simp

/-- A field of a merged mapping can be read if it can be read of every document, and all keys that
mention it are alike. -/
theorem isSome_fieldValue?_of_sources {documents : List Value} (table : IsTable entries)
    (sources : ∀ entry ∈ entries, ComesFrom documents entry)
    (alike : ∀ first ∈ mentions entries name, ∀ second ∈ mentions entries name,
      first.1.same second.1 = true)
    (keyed : keyedEntries? entries = some layer) (flat : ∀ entries, read (.mapping entries) = none)
    (typed : ∀ own, .mapping own ∈ documents → ∃ named, keyedEntries? own = some named ∧
      (fieldValue? named name read default).isSome = true) :
    (fieldValue? layer name read default).isSome = true := by
  refine (isSome_fieldValue?_iff keyed).mpr ⟨?_, fun entry mentioned => ?_⟩
  · have apart : (mentions entries name).Pairwise Apart := table.apart.filter _
    match same : mentions entries name with
    | [] | [_] => simp
    | first :: second :: rest =>
        rw [same] at apart alike
        have unlike := (List.pairwise_cons.mp apart).1 second List.mem_cons_self
        have again := alike first List.mem_cons_self second (.tail _ List.mem_cons_self)
        cases unlike.1.symm.trans again
  · obtain ⟨inside, isName⟩ := List.mem_filter.mp mentioned
    rw [decide_eq_true_iff] at isName
    obtain ⟨own, isOwn, source, member, same, value⟩ := sources entry inside
    obtain ⟨named, ownKeyed, isTyped⟩ := typed own isOwn
    have reads : (read source.2).isSome = true :=
      ((isSome_fieldValue?_iff ownKeyed).mp isTyped).2 source
        (List.mem_filter.mpr ⟨member, by rw [textValue?_congr same, isName, decide_eq_true rfl]⟩)
    -- A document with a mapping for the value cannot be read, so nothing was merged here.
    rcases value with equal | ⟨below, above, isMapping, -⟩
    · rwa [← equal]
    · rw [isMapping, flat] at reads
      cases reads

private theorem isSome_keyedEntries?_iff :
    (keyedEntries? entries).isSome = true ↔
      ∀ entry ∈ entries, (textValue? entry.1).isSome = true := by
  induction entries with
  | nil => simp [keyedEntries?]
  | cons entry rest ih =>
      rw [keyedEntries?, List.mapM_cons, ← keyedEntries?, List.forall_mem_cons, ← ih]
      cases textValue? entry.1 with
      | none => simp
      | some key => cases keyedEntries? rest <;> simp

end Fields

namespace Settings

/-- A mapping is one of settings exactly if its keys are texts and each of the known ones has a
value of its type. -/
theorem isSome_ofYaml?_mapping_iff {entries : List (Value × Value)} :
    (ofYaml? (.mapping entries)).isSome = true ↔
      ∃ layer, keyedEntries? entries = some layer ∧
        (fieldValue? layer "flow_path" textValue? ({} : Settings).executable).isSome = true ∧
        (fieldValue? layer "args" textsValue? ({} : Settings).arguments).isSome = true ∧
        (fieldValue? layer "stdin_sentinel" textValue? ({} : Settings).sentinel).isSome = true ∧
        (fieldValue? layer "timeout_secs" secondsValue? ({} : Settings).timeout).isSome = true := by
  rw [ofYaml?]
  simp only [Value.untagged, Option.bind_eq_bind, Option.pure_def, Option.isSome_iff_exists,
    Option.bind_eq_some_iff, Option.some.injEq]
  constructor
  · rintro ⟨_, layer, keyed, _, executable, _, arguments, _, sentinel, _, timeout, -⟩
    exact ⟨layer, keyed, ⟨_, executable⟩, ⟨_, arguments⟩, ⟨_, sentinel⟩, ⟨_, timeout⟩⟩
  · rintro ⟨layer, keyed, ⟨_, executable⟩, ⟨_, arguments⟩, ⟨_, sentinel⟩, ⟨_, timeout⟩⟩
    exact ⟨_, layer, keyed, _, executable, _, arguments, _, sentinel, _, timeout, rfl⟩

/-- The keys of the fields. -/
def fieldNames : List String :=
  ["flow_path", "args", "stdin_sentinel", "timeout_secs"]

/-- Two documents say something of one field with different keys: a tag makes a key different, but
is passed over when the settings are read. -/
def KeysClash (documents : List Value) : Prop :=
  ∃ one other, .mapping one ∈ documents ∧ .mapping other ∈ documents ∧
    ∃ first ∈ one, ∃ second ∈ other, ∃ name ∈ fieldNames, textValue? first.1 = some name ∧
      textValue? second.1 = some name ∧ first.1.same second.1 = false

/-- Where no keys of the documents clash, the mentions of a known name have the same key. -/
theorem same_of_sources {documents : List Value} {entries : List (Value × Value)} {name : String}
    (known : name ∈ fieldNames) (proper : ∀ document ∈ documents, document.Proper)
    (agreed : ¬ KeysClash documents) (sources : ∀ entry ∈ entries, ComesFrom documents entry) :
    ∀ first ∈ mentions entries name, ∀ second ∈ mentions entries name,
      first.1.same second.1 = true := by
  intro first mentioned second mentionedToo
  obtain ⟨inside, isName⟩ := List.mem_filter.mp mentioned
  obtain ⟨insideToo, isNameToo⟩ := List.mem_filter.mp mentionedToo
  rw [decide_eq_true_iff] at isName isNameToo
  obtain ⟨one, isOne, source, member, same, -⟩ := sources first inside
  obtain ⟨other, isOther, another, memberToo, sameToo, -⟩ := sources second insideToo
  have alike : source.1.same another.1 = true := by
    by_contra unlike
    rw [Bool.not_eq_true] at unlike
    exact agreed ⟨one, other, isOne, isOther, source, member, another, memberToo, name, known,
      (textValue?_congr same).trans isName, (textValue?_congr sameToo).trans isNameToo, unlike⟩
  have properKey := (Value.proper_mapping_iff.mp (proper _ isOne)).1.proper source member
  exact Value.same_trans (Value.same_symm properKey same) (Value.same_trans alike sameToo)

/-- What documents come to can be read as settings if each of them can, and their keys do not
clash. -/
theorem isSome_ofYaml?_overlaid {documents : List Value}
    (proper : ∀ document ∈ documents, document.Proper)
    (typed : ∀ document ∈ documents, (ofYaml? document).isSome = true)
    (agreed : ¬ KeysClash documents) :
    (ofYaml? (documents.foldl overlay (.mapping []))).isSome = true := by
  rcases overlaid_cases proper with whole | ⟨entries, merged, table, sources⟩
  · exact typed _ whole
  · have readable (own : List (Value × Value)) (inside : .mapping own ∈ documents) :=
      isSome_ofYaml?_mapping_iff.mp (typed _ inside)
    have texts : ∀ entry ∈ entries, (textValue? entry.1).isSome = true := by
      intro entry inside
      obtain ⟨own, isOwn, source, member, same, -⟩ := sources entry inside
      obtain ⟨named, keyed, -⟩ := readable own isOwn
      rw [← textValue?_congr same]
      exact isSome_keyedEntries?_iff.mp (Option.isSome_of_eq_some keyed) source member
    obtain ⟨layer, keyed⟩ := Option.isSome_iff_exists.mp (isSome_keyedEntries?_iff.mpr texts)
    have field {α : Type} {read : Value → Option α} {default : α} {name : String}
        (known : name ∈ fieldNames) (flat : ∀ entries, read (.mapping entries) = none)
        (typed : ∀ own, .mapping own ∈ documents → ∃ named, keyedEntries? own = some named ∧
          (fieldValue? named name read default).isSome = true) :
        (fieldValue? layer name read default).isSome = true :=
      isSome_fieldValue?_of_sources table sources (same_of_sources known proper agreed sources)
        keyed flat typed
    rw [merged, isSome_ofYaml?_mapping_iff]
    refine ⟨layer, keyed, field (by decide) (fun _ => rfl) fun own inside => ?_,
      field (by decide) (fun _ => rfl) fun own inside => ?_,
      field (by decide) (fun _ => rfl) fun own inside => ?_,
      field (by decide) (fun _ => rfl) fun own inside => ?_⟩
    · obtain ⟨named, isNamed, executable, -⟩ := readable own inside
      exact ⟨named, isNamed, executable⟩
    · obtain ⟨named, isNamed, -, arguments, -⟩ := readable own inside
      exact ⟨named, isNamed, arguments⟩
    · obtain ⟨named, isNamed, -, -, sentinel, -⟩ := readable own inside
      exact ⟨named, isNamed, sentinel⟩
    · obtain ⟨named, isNamed, -, -, -, timeout⟩ := readable own inside
      exact ⟨named, isNamed, timeout⟩

end Settings

end FlowCheck
