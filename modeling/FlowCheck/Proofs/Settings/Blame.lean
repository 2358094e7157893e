import FlowCheck.Proofs.Settings.Origin
import FlowCheck.Proofs.Yaml.Meaning
import FlowCheck.Settings.Layers

/-! # Which file a settings error blames

An error in a file that is loaded alone, and a file that is no YAML document, are blamed on that
file. But layers are overlaid before they are read as settings, and what they come to then is blamed
on the project's settings file, whether it is at fault or not, or is there at all.
-/

namespace FlowCheck

open Yaml

/-! ## What is read of the files -/

namespace Files

variable {files : Files} {path : String} {value : Value}

/-- The text of a file is no YAML document. -/
def IsBroken (files : Files) (path : String) : Prop :=
  ∃ text, files.read path = .ok text ∧ settingsValue? text = none

/-- The text of a file is a YAML document, but no settings. -/
def IsUntyped (files : Files) (path : String) : Prop :=
  ∃ text value, files.read path = .ok text ∧ settingsValue? text = some value ∧
    Settings.ofYaml? value = none

/-- A file is by itself what settings cannot be loaded from. -/
def IsAtFault (files : Files) (path : String) : Prop :=
  files.IsBroken path ∨ files.IsUntyped path

/-- A file of settings is read exactly if it is a text that holds a value. -/
theorem readSettings_eq_ok_iff :
    files.readSettings path = .ok value ↔
      ∃ text, files.read path = .ok text ∧ settingsValue? text = some value := by
  rw [readSettings]
  split
  · next read => simp [read]
  · next read => simp [read]
  · next text read =>
      simp only [read, Except.ok.injEq, exists_eq_left']
      cases settingsValue? text <;> simp

/-- A file of settings is invalid exactly if it is broken, and then it is blamed itself. -/
theorem readSettings_eq_invalid_iff {blamed detail : String} :
    files.readSettings path = .error (.settingsInvalid blamed detail) ↔
      blamed = path ∧ detail = "not a YAML document" ∧ files.IsBroken path := by
  rw [readSettings, IsBroken]
  split
  · next read => simp [read]
  · next read => simp [read]
  · next text read =>
      simp only [read, Except.ok.injEq, exists_eq_left']
      cases settingsValue? text <;> simp [eq_comm]

private theorem isUntyped_iff :
    files.IsUntyped path ↔
      ∃ value, files.readSettings path = .ok value ∧ Settings.ofYaml? value = none := by
  simp only [IsUntyped, readSettings_eq_ok_iff]
  constructor
  · rintro ⟨text, value, read, means, untyped⟩
    exact ⟨value, ⟨text, read, means⟩, untyped⟩
  · rintro ⟨value, ⟨text, read, means⟩, untyped⟩
    exact ⟨text, value, read, means, untyped⟩

private theorem not_isBroken_of_read (read : files.readSettings path = .ok value) :
    ¬ files.IsBroken path := by
  rintro ⟨text, isText, broken⟩
  obtain ⟨content, isContent, means⟩ := readSettings_eq_ok_iff.mp read
  obtain rfl := Except.ok.inj (isText.symm.trans isContent)
  cases broken.symm.trans means

private theorem readSettings_proper (read : files.readSettings path = .ok value) :
    value.Proper := by
  obtain ⟨text, -, isValue⟩ := readSettings_eq_ok_iff.mp read
  obtain ⟨content, means, rfl⟩ := Option.map_eq_some_iff.mp isValue
  split
  · exact Value.proper_mapping_iff.mpr ⟨⟨.nil, nofun⟩, nofun⟩
  · exact Value.proper_of_ofChars? means

end Files

section Traversal

variable {α β ε : Type} {step : α → Except ε β} {items : List α}

/-- A traversal that fails has come to the first item that fails. -/
theorem exists_of_mapM_eq_error {failure : ε} (failed : items.mapM step = .error failure) :
    ∃ before item after, items = before ++ item :: after ∧
      (∀ earlier ∈ before, ∃ result, step earlier = .ok result) ∧
      step item = .error failure := by
  induction items with
  | nil => cases failed
  | cons first rest ih =>
      rw [List.mapM_cons] at failed
      cases head : step first with
      | error cause =>
          rw [head] at failed
          obtain rfl := Except.error.inj failed
          exact ⟨[], first, rest, rfl, nofun, head⟩
      | ok result =>
          rw [head] at failed
          cases tail : rest.mapM step with
          | error cause =>
              rw [tail] at failed
              obtain rfl := Except.error.inj failed
              obtain ⟨before, item, after, rfl, passed, last⟩ := ih tail
              exact ⟨first :: before, item, after, rfl,
                List.forall_mem_cons.mpr ⟨⟨result, head⟩, passed⟩, last⟩
          | ok results =>
              rw [tail] at failed
              cases failed

private theorem exists_of_mapM_eq_ok {results : List β}
    (traversed : items.mapM step = .ok results) :
    (∀ item ∈ items, ∃ result, step item = .ok result) ∧
      ∀ result ∈ results, ∃ item ∈ items, step item = .ok result := by
  induction items generalizing results with
  | nil =>
      obtain rfl := Except.ok.inj traversed
      exact ⟨nofun, nofun⟩
  | cons first rest ih =>
      rw [List.mapM_cons] at traversed
      cases head : step first with
      | error cause =>
          rw [head] at traversed
          cases traversed
      | ok found =>
          rw [head] at traversed
          cases tail : rest.mapM step with
          | error cause =>
              rw [tail] at traversed
              cases traversed
          | ok others =>
              rw [tail] at traversed
              obtain rfl := Except.ok.inj traversed
              obtain ⟨passed, origin⟩ := ih tail
              refine ⟨List.forall_mem_cons.mpr ⟨⟨found, head⟩, passed⟩,
                List.forall_mem_cons.mpr
                  ⟨⟨first, List.mem_cons_self, head⟩, fun result inside => ?_⟩⟩
              obtain ⟨item, member, same⟩ := origin result inside
              exact ⟨item, List.mem_cons_of_mem _ member, same⟩

end Traversal

/-! ## What is blamed -/

namespace Settings

/-- The files that settings are loaded from. -/
def loadedFiles (files : Files) (home : Option String) (project : String) (file : Option String) :
    List String :=
  match file with
  | some path => [path]
  | none => (Layers.discover files home project).paths

variable {files : Files} {home : Option String} {project path detail : String}

/-- A value is blamed on its source exactly if it is not that of settings. -/
theorem ofValue_eq_error_iff {source : String} {value : Value} :
    ofValue source value = .error (.settingsInvalid path detail) ↔
      ofYaml? value = none ∧ path = source ∧ detail = "not a mapping of settings" := by
  rw [ofValue]
  cases ofYaml? value <;> simp [eq_comm]

/-- A file that is loaded alone is blamed for its own faults. -/
theorem loadFile_blames {named : String}
    (failed : loadFile files named = .error (.settingsInvalid path detail)) :
    path = named ∧ files.IsAtFault named := by
  rw [loadFile] at failed
  cases read : files.readSettings named with
  | error cause =>
      rw [read] at failed
      obtain rfl := Except.error.inj failed
      obtain ⟨same, -, broken⟩ := Files.readSettings_eq_invalid_iff.mp read
      exact ⟨same, .inl broken⟩
  | ok value =>
      rw [read] at failed
      obtain ⟨untyped, same, -⟩ := ofValue_eq_error_iff.mp failed
      exact ⟨same, .inr (Files.isUntyped_iff.mpr ⟨value, read, untyped⟩)⟩

/-- Of layers, the first that is broken is blamed; if none is, the project's settings file. -/
theorem loadLayers_blames
    (failed : loadLayers files home project = .error (.settingsInvalid path detail)) :
    (∃ before after, (Layers.discover files home project).paths = before ++ path :: after ∧
      (∀ earlier ∈ before, ∃ value, files.readSettings earlier = .ok value) ∧
      files.IsBroken path) ∨
    path = settingsPath project "config.yml" ∧
      ∃ values, (Layers.discover files home project).paths.mapM files.readSettings = .ok values ∧
        ofYaml? (values.foldl overlay (.mapping [])) = none := by
  rw [loadLayers] at failed
  cases read : (Layers.discover files home project).paths.mapM files.readSettings with
  | error cause =>
      rw [read] at failed
      obtain rfl := Except.error.inj failed
      obtain ⟨before, item, after, layers, earlier, last⟩ := exists_of_mapM_eq_error read
      obtain ⟨rfl, -, broken⟩ := Files.readSettings_eq_invalid_iff.mp last
      exact .inl ⟨before, after, layers, earlier, broken⟩
  | ok values =>
      rw [read] at failed
      obtain ⟨untyped, same, -⟩ := ofValue_eq_error_iff.mp failed
      exact .inr ⟨same, values, rfl, untyped⟩

/-- Where the layers come to no settings, one of them is at fault by itself, or their keys clash. -/
theorem exists_untyped_layer {paths : List String} {values : List Value}
    (read : paths.mapM files.readSettings = .ok values)
    (untyped : ofYaml? (values.foldl overlay (.mapping [])) = none) :
    (∃ culprit ∈ paths, files.IsUntyped culprit) ∨ KeysClash values := by
  by_contra innocent
  obtain ⟨typed, agreed⟩ := not_or.mp innocent
  have each : ∀ value ∈ values, value.Proper ∧ (ofYaml? value).isSome = true := by
    intro value inside
    obtain ⟨layer, member, isRead⟩ := (exists_of_mapM_eq_ok read).2 value inside
    refine ⟨Files.readSettings_proper isRead, Option.isSome_iff_ne_none.mpr fun none => ?_⟩
    exact typed ⟨layer, member, Files.isUntyped_iff.mpr ⟨value, isRead, none⟩⟩
  have whole := isSome_ofYaml?_overlaid (fun value inside => (each value inside).1)
    (fun value inside => (each value inside).2) agreed
  rw [untyped] at whole
  cases whole

/-- **Which file a settings error blames.** The file that an error names was loaded and is at fault
by itself exactly if it was named on the command line, if a layer is no YAML document, or if the
project's settings file is a layer and no settings. Of the layers that are no YAML document the
first is blamed. If all layers are YAML documents, the project's settings file is blamed, though it
need not be there: one of the layers is at fault by itself, or two of them spell the key of a field
in two ways. -/
theorem load_blames {file : Option String}
    (failed : load files home project file = .error (.settingsInvalid path detail)) :
    (path ∈ loadedFiles files home project file ∧ files.IsAtFault path ↔
      file.isSome = true ∨ (∃ layer ∈ loadedFiles files home project file, files.IsBroken layer) ∨
        settingsPath project "config.yml" ∈ loadedFiles files home project file ∧
          files.IsUntyped (settingsPath project "config.yml")) ∧
    (file = none →
      (∃ before after, loadedFiles files home project file = before ++ path :: after ∧
        (∀ earlier ∈ before, ∃ value, files.readSettings earlier = .ok value) ∧
        files.IsBroken path) ∨
      path = settingsPath project "config.yml" ∧
        ∃ values, (loadedFiles files home project file).mapM files.readSettings = .ok values ∧
          ((∃ culprit ∈ loadedFiles files home project file, files.IsUntyped culprit) ∨
            KeysClash values)) := by
  cases file with
  | some named =>
      obtain ⟨rfl, fault⟩ := loadFile_blames failed
      exact ⟨⟨fun _ => .inl rfl, fun _ => ⟨List.mem_singleton_self _, fault⟩⟩, nofun⟩
  | none =>
      rcases loadLayers_blames failed with
        ⟨before, after, layers, earlier, broken⟩ | ⟨rfl, values, read, untyped⟩
      · have inside : path ∈ loadedFiles files home project none := by
          rw [loadedFiles, layers]
          exact List.mem_append_right _ List.mem_cons_self
        exact ⟨⟨fun _ => .inr (.inl ⟨path, inside, broken⟩), fun _ => ⟨inside, .inl broken⟩⟩,
          fun _ => .inl ⟨before, after, layers, earlier, broken⟩⟩
      · have sound : ∀ layer ∈ loadedFiles files home project none, ¬ files.IsBroken layer := by
          intro layer inside
          obtain ⟨value, isRead⟩ := (exists_of_mapM_eq_ok read).1 layer inside
          exact Files.not_isBroken_of_read isRead
        refine ⟨⟨?_, ?_⟩, fun _ => .inr ⟨rfl, values, read, exists_untyped_layer read untyped⟩⟩
        · rintro ⟨inside, broken | culprit⟩
          · exact (sound _ inside broken).elim
          · exact .inr (.inr ⟨inside, culprit⟩)
        · rintro (named | ⟨layer, inside, broken⟩ | ⟨inside, culprit⟩)
          · cases named
          · exact (sound layer inside broken).elim
          · exact ⟨inside, .inr culprit⟩

/-- A home directory with settings, and a project without. The user's timeout is no number. -/
def userOnlyFiles : Files where
  root := .directory [
    ("home", .directory [(".flowtc", .directory [
      ("config.yml", .file "timeout_secs: soon\n".toUTF8 false)])]),
    ("work", .directory [])]

private theorem discover_userOnlyFiles : Layers.discover userOnlyFiles (some "/home") "/work" =
    ⟨some "/home/.flowtc/config.yml", none, none⟩ := by
  decide +kernel

private theorem readSettings_userOnlyFiles :
    userOnlyFiles.readSettings "/home/.flowtc/config.yml" =
      .ok (.mapping [(.text "timeout_secs", .text "soon")]) := by
  have read : userOnlyFiles.read "/home/.flowtc/config.yml" = .ok "timeout_secs: soon\n" := by
    decide +kernel
  have tokens : Token.ofChars? "timeout_secs: soon\n".toList =
      some [.blockMappingStart, .key, .scalar "timeout_secs".toList .plain, .value,
        .scalar "soon".toList .plain, .blockEnd, .streamEnd] := by decide +kernel
  refine Files.readSettings_eq_ok_iff.mpr ⟨_, read, ?_⟩
  exact congrArg (Option.map _) (Value.ofChars?_eq_some tokens (by rfl) (by rfl))

private theorem load_userOnlyFiles :
    load userOnlyFiles (some "/home") "/work" none =
      .error (.settingsInvalid "/work/.flowtc/config.yml" "not a mapping of settings") := by
  have read : (Layers.discover userOnlyFiles (some "/home") "/work").paths.mapM
      userOnlyFiles.readSettings = .ok [.mapping [(.text "timeout_secs", .text "soon")]] := by
    rw [discover_userOnlyFiles]
    change ["/home/.flowtc/config.yml"].mapM userOnlyFiles.readSettings = _
    rw [List.mapM_cons, readSettings_userOnlyFiles]
    rfl
  rw [load, loadLayers, read]
  change ofValue (settingsPath "/work" "config.yml") (List.foldl overlay (.mapping [])
    [.mapping [(.text "timeout_secs", .text "soon")]]) = _
  exact ofValue_eq_error_iff.mpr ⟨by rfl, by decide +kernel, rfl⟩

/-- The project's settings file, which is not there, is blamed for a fault of the user's. -/
theorem load_blames_of_userOnlyFiles :
    load userOnlyFiles (some "/home") "/work" none =
      .error (.settingsInvalid "/work/.flowtc/config.yml" "not a mapping of settings") ∧
    ¬ ("/work/.flowtc/config.yml" ∈ loadedFiles userOnlyFiles (some "/home") "/work" none ∧
      userOnlyFiles.IsAtFault "/work/.flowtc/config.yml") ∧
    userOnlyFiles.IsUntyped "/home/.flowtc/config.yml" := by
  have loaded : loadedFiles userOnlyFiles (some "/home") "/work" none =
      ["/home/.flowtc/config.yml"] := by
    rw [loadedFiles, discover_userOnlyFiles]
    rfl
  obtain ⟨-, blamed⟩ := load_blames load_userOnlyFiles
  rw [loaded] at blamed ⊢
  have elsewhere : "/work/.flowtc/config.yml" ∉ ["/home/.flowtc/config.yml"] := by decide
  refine ⟨load_userOnlyFiles, fun ⟨inside, _⟩ => elsewhere inside, ?_⟩
  rcases blamed rfl with ⟨before, after, whole, -, -⟩ | ⟨-, values, read, culprit | clash⟩
  · exact (elsewhere (whole ▸ List.mem_append_right _ List.mem_cons_self)).elim
  · obtain ⟨layer, inside, untyped⟩ := culprit
    rwa [List.mem_singleton.mp inside] at untyped
  · -- A single document with a single key does not clash.
    rw [List.mapM_cons, readSettings_userOnlyFiles] at read
    obtain rfl := Except.ok.inj read
    obtain ⟨one, other, isOne, isOther, first, inside, second, insideToo, -, -, -, -, unlike⟩ :=
      clash
    obtain rfl := Value.mapping.inj (List.mem_singleton.mp isOne)
    obtain rfl := Value.mapping.inj (List.mem_singleton.mp isOther)
    rw [List.mem_singleton.mp inside, List.mem_singleton.mp insideToo, Value.same_refl] at unlike
    cases unlike

/-- An error in settings does not always name a file that was loaded and is at fault by itself. -/
theorem load_blames_wrongly :
    ¬ ∀ (files : Files) (home : Option String) (project : String) (file : Option String)
      (path detail : String),
      load files home project file = .error (.settingsInvalid path detail) →
        path ∈ loadedFiles files home project file ∧ files.IsAtFault path := by
  intro always
  obtain ⟨inside, -⟩ := always _ _ _ _ _ _ load_userOnlyFiles
  rw [loadedFiles, discover_userOnlyFiles] at inside
  revert inside
  decide

end Settings

end FlowCheck
