import FlowCheck.Command.Config
import FlowCheck.Proofs.Settings.Reader
import FlowCheck.Proofs.Settings.Tokens
import FlowCheck.Proofs.Ui.Terminal
import FlowCheck.Proofs.Yaml.Meaning
import FlowCheck.Proofs.Yaml.Scalar
import FlowCheck.Settings.Layers

/-! # Settings read back

The settings file that settings are written as has their tokens, the tokens build a mapping, the
mapping means the texts and the number that were written, and these are read as the same
settings.
-/

namespace FlowCheck.Settings

open Yaml

/-! ## From tokens to a node -/

/-- The node of a key. -/
def keyNode (key : String) : Yaml.Node :=
  .scalar {} key.toList .plain

/-- The node of a text. -/
def textNode (text : String) : Yaml.Node :=
  .scalar {} text.toList (scalarFormOf text.toList)

/-- The node of a list of texts. -/
def listNode (texts : List String) : Yaml.Node :=
  .sequence {} (texts.map textNode)

/-- The node of a number. -/
def numberNode (n : Nat) : Yaml.Node :=
  .scalar {} (Nat.toDigits 10 n) .plain

/-- A document in the mapping that settings are. Its entries so far are given last first. -/
def within (entries : List (Yaml.Node × Yaml.Node)) (part : EntryPart) : Progress :=
  .within { handles := [], stack := [.block {} entries part, .root] }

/-- A document in a list of that mapping. -/
def withinList (entries : List (Yaml.Node × Yaml.Node)) (key : Yaml.Node)
    (items : List Yaml.Node) : Progress :=
  .within { handles := [], stack :=
    [.bareDashes {} items false, .block {} entries (.value key), .root] }

section Building

variable {entries : List (Yaml.Node × Yaml.Node)} (rest : List Token)

private theorem foldlM_key (key : String) :
    (keyTokens key ++ rest).foldlM Progress.read (within entries .keyMark) =
      rest.foldlM Progress.read (within entries (.value (keyNode key))) :=
  rfl

private theorem foldlM_text (key : Yaml.Node) (text : String) :
    (textToken text :: rest).foldlM Progress.read (within entries (.value key)) =
      rest.foldlM Progress.read (within ((key, textNode text) :: entries) .keyMark) :=
  rfl

private theorem foldlM_number (key : Yaml.Node) (n : Nat) :
    (numberToken n :: rest).foldlM Progress.read (within entries (.value key)) =
      rest.foldlM Progress.read (within ((key, numberNode n) :: entries) .keyMark) :=
  rfl

private theorem foldlM_brackets (key : Yaml.Node) :
    (.flowSequenceStart :: .flowSequenceEnd :: rest).foldlM Progress.read
        (within entries (.value key)) =
      rest.foldlM Progress.read (within ((key, .sequence {} []) :: entries) .keyMark) :=
  rfl

private theorem foldlM_firstItem (key : Yaml.Node) (text : String) :
    (.blockEntry :: textToken text :: rest).foldlM Progress.read (within entries (.value key)) =
      rest.foldlM Progress.read (withinList entries key [textNode text]) :=
  rfl

private theorem foldlM_item (key : Yaml.Node) (items : List Yaml.Node) (text : String) :
    (.blockEntry :: textToken text :: rest).foldlM Progress.read (withinList entries key items) =
      rest.foldlM Progress.read (withinList entries key (textNode text :: items)) :=
  rfl

/-- A key ends the list before it, which nothing else closes. -/
theorem foldlM_listEnd (key : Yaml.Node) (items : List Yaml.Node) :
    (.key :: rest).foldlM Progress.read (withinList entries key items) =
      (.key :: rest).foldlM Progress.read
        (within ((key, .sequence {} items.reverse) :: entries) .keyMark) :=
  rfl

private theorem foldlM_items (key : Yaml.Node) (items : List Yaml.Node) (texts : List String) :
    (itemTokens texts ++ rest).foldlM Progress.read (withinList entries key items) =
      rest.foldlM Progress.read
        (withinList entries key ((texts.map textNode).reverse ++ items)) := by
  induction texts generalizing items with
  | nil => rfl
  | cons text texts ih =>
      refine (foldlM_item (itemTokens texts ++ rest) key items text).trans ((ih _).trans ?_)
      simp

private theorem foldlM_list (key : Yaml.Node) (texts : List String) :
    (listTokens texts ++ .key :: rest).foldlM Progress.read (within entries (.value key)) =
      (.key :: rest).foldlM Progress.read (within ((key, listNode texts) :: entries) .keyMark) := by
  cases texts with
  | nil => exact foldlM_brackets (.key :: rest) key
  | cons text texts =>
      refine (foldlM_firstItem (itemTokens texts ++ .key :: rest) key text).trans ?_
      refine (foldlM_items _ key _ texts).trans ((foldlM_listEnd rest key _).trans ?_)
      simp [listNode]

end Building

/-- The entry of a timeout, if it is set. -/
def secondsNodes (timeout : Option UInt64) : List (Yaml.Node × Yaml.Node) :=
  timeout.elim [] fun seconds => [(keyNode "timeout_secs", numberNode seconds.toNat)]

/-- The node of settings. -/
def node (settings : Settings) : Yaml.Node :=
  .mapping {} ([(keyNode "flow_path", textNode settings.executable),
    (keyNode "args", listNode settings.arguments),
    (keyNode "stdin_sentinel", textNode settings.sentinel)] ++ secondsNodes settings.timeout)

/-- The end of the mapping is the end of the document. -/
theorem foldlM_close (entries : List (Yaml.Node × Yaml.Node)) :
    [Token.blockEnd, .streamEnd].foldlM Progress.read (within entries .keyMark) =
      some (.after (.mapping {} entries.reverse)) :=
  rfl

private theorem foldlM_end (entries : List (Yaml.Node × Yaml.Node)) (timeout : Option UInt64) :
    (secondsTokens timeout ++ [Token.blockEnd, .streamEnd]).foldlM Progress.read
        (within entries .keyMark) =
      some (.after (.mapping {} (entries.reverse ++ secondsNodes timeout))) := by
  cases timeout with
  | none => exact (foldlM_close entries).trans (by simp [secondsNodes])
  | some seconds =>
      refine (foldlM_key _ "timeout_secs").trans ((foldlM_number _ _ _).trans ?_)
      exact (foldlM_close _).trans (by simp [secondsNodes])

/-- The tokens of written settings are read to their node. -/
theorem ofTokens?_tokens (settings : Settings) :
    Node.ofTokens? (.blockMappingStart :: settings.entryTokens ++ [.blockEnd, .streamEnd]) =
      some (some settings.node) := by
  have grouped : Token.blockMappingStart :: settings.entryTokens ++ [.blockEnd, .streamEnd] =
      .blockMappingStart :: (keyTokens "flow_path" ++ textToken settings.executable ::
        (keyTokens "args" ++ (listTokens settings.arguments ++
          (keyTokens "stdin_sentinel" ++ textToken settings.sentinel ::
            (secondsTokens settings.timeout ++ [Token.blockEnd, .streamEnd]))))) := by
    simp only [entryTokens, List.append_assoc, List.cons_append, List.nil_append]
  have built : (Token.blockMappingStart :: settings.entryTokens ++
      [Token.blockEnd, .streamEnd]).foldlM Progress.read (.before false [] false) =
      some (.after settings.node) := by
    rw [grouped]
    refine Eq.trans (b := List.foldlM Progress.read (within [] .keyMark) _) rfl ?_
    refine (foldlM_key _ _).trans ((foldlM_text _ _ _).trans ((foldlM_key _ _).trans ?_))
    refine (foldlM_list _ _ _).trans ((foldlM_key _ "stdin_sentinel").trans ?_)
    exact (foldlM_text _ _ _).trans (foldlM_end _ settings.timeout)
  rw [Node.ofTokens?, built]
  rfl

/-! ## From a node to settings -/

/-- What a settings file says. -/
def layer (settings : Settings) : Layer :=
  [("flow_path", .text settings.executable),
    ("args", .sequence (settings.arguments.map Value.text)),
    ("stdin_sentinel", .text settings.sentinel)] ++
  settings.timeout.elim [] fun seconds => [("timeout_secs", .integer seconds.toNat)]

section Meaning

variable {depth : Nat}

private theorem means_keyNode {key : String} (reads : readsAsText key.toList = true) :
    Means depth (keyNode key) (.text key) := by
  have means : Means depth (keyNode key) (.text (String.ofList key.toList)) :=
    means_scalar (plainValue?_of_readsAsText reads)
  rwa [String.ofList_toList] at means

private theorem means_textNode (text : String) : Means depth (textNode text) (.text text) := by
  have means : Means depth (textNode text) (.text (String.ofList text.toList)) :=
    means_scalar (scalarValue?_written text.toList)
  rwa [String.ofList_toList] at means

private theorem means_listNode (texts : List String) :
    Means (depth + 1) (listNode texts) (.sequence (texts.map Value.text)) := by
  refine means_sequence ?_
  rw [List.forall₂_map_left_iff, List.forall₂_map_right_iff, List.forall₂_same]
  exact fun text _ => means_textNode text

private theorem means_numberNode (seconds : UInt64) :
    Means depth (numberNode seconds.toNat) (.integer seconds.toNat) :=
  means_scalar (plainValue?_toDigits seconds.toNat_lt)

private theorem means_node (settings : Settings) :
    Means (depth + 2) settings.node (.mapping settings.layer.entries) := by
  obtain ⟨executable, arguments, sentinel, timeout⟩ := settings
  have isExecutable : Means (depth + 1) (keyNode "flow_path") (.text "flow_path") :=
    means_keyNode (by decide +kernel)
  have areArguments : Means (depth + 1) (keyNode "args") (.text "args") :=
    means_keyNode (by decide +kernel)
  have isSentinel : Means (depth + 1) (keyNode "stdin_sentinel") (.text "stdin_sentinel") :=
    means_keyNode (by decide +kernel)
  have isTimeout : Means (depth + 1) (keyNode "timeout_secs") (.text "timeout_secs") :=
    means_keyNode (by decide +kernel)
  cases timeout with
  | none =>
      exact means_mapping (.cons ⟨isExecutable, means_textNode executable⟩
        (.cons ⟨areArguments, means_listNode arguments⟩
          (.cons ⟨isSentinel, means_textNode sentinel⟩ .nil))) rfl
  | some seconds =>
      exact means_mapping (.cons ⟨isExecutable, means_textNode executable⟩
        (.cons ⟨areArguments, means_listNode arguments⟩
          (.cons ⟨isSentinel, means_textNode sentinel⟩
            (.cons ⟨isTimeout, means_numberNode seconds⟩ .nil)))) rfl

end Meaning

private theorem textsValue?_texts (texts : List String) :
    textsValue? (.sequence (texts.map Value.text)) = some texts := by
  change (texts.map Value.text).mapM textValue? = some texts
  induction texts with
  | nil => rfl
  | cons text texts ih =>
      rw [List.map_cons, List.mapM_cons, ih]
      rfl

private theorem secondsValue?_integer (seconds : UInt64) :
    secondsValue? (.integer seconds.toNat) = some (some seconds) := by
  have fits : 0 ≤ (seconds.toNat : Int) ∧ (seconds.toNat : Int) < 0x10000000000000000 := by
    have small := seconds.toNat_lt
    omega
  have same : UInt64.ofNat (seconds.toNat : Int).toNat = seconds := UInt64.ofNat_toNat
  simp only [secondsValue?, Value.untagged, if_pos fits, same]

/-- Written settings have the values that they were written for. -/
theorem ofYaml?_layer (settings : Settings) :
    ofYaml? (.mapping settings.layer.entries) = some settings := by
  obtain ⟨executable, arguments, sentinel, timeout⟩ := settings
  have areArguments := textsValue?_texts arguments
  cases timeout with
  | none => exact ofYaml?_entries rfl areArguments rfl rfl
  | some seconds => exact ofYaml?_entries rfl areArguments rfl (secondsValue?_integer seconds)

/-- The text of written settings is read as their entries. -/
theorem settingsValue?_yaml (settings : Settings) :
    settingsValue? settings.yaml = some (.mapping settings.layer.entries) := by
  have means : Value.ofChars? settings.yaml.toList = some (.mapping settings.layer.entries) :=
    Value.ofChars?_eq_some settings.ofChars?_yaml settings.ofTokens?_tokens
      (Means.ofNode? settings.means_node)
  rw [settingsValue?, means]
  rfl

/-! ## From a file -/

section File

variable {files : Files} {path : String} {executable : Bool}

private theorem read_of_node {text : String}
    (found : files.node path = .ok (.file text.toUTF8 executable)) :
    files.read path = .ok text := by
  have decoded : String.fromUTF8? text.toUTF8 = some text := dif_pos text.isValidUTF8
  rw [Files.read, found]
  change (Node.file text.toUTF8 executable).read = _
  rw [FlowCheck.Node.read, decoded]

/-- A file with written settings is loaded to the settings. -/
theorem loadFile_yaml {settings : Settings}
    (found : files.node path = .ok (.file settings.yaml.toUTF8 executable)) :
    loadFile files path = .ok settings := by
  have value := settings.settingsValue?_yaml
  have isRead : files.readSettings path = .ok (.mapping settings.layer.entries) := by
    rw [Files.readSettings, read_of_node found]
    simp only [value]
  rw [loadFile, isRead]
  change ofValue path (.mapping settings.layer.entries) = _
  rw [ofValue, ofYaml?_layer]

end File

/-! ## The command -/

private theorem texts_emit_sourceActs (paths : List String) :
    Act.texts .emit (sourceActs paths) = [] := by
  unfold sourceActs
  split <;> simp [Act.texts, Act.text]

private theorem texts_emit_executableAct (host : Host) (settings : Settings) :
    Act.texts .emit [executableAct host settings] = [] := by
  unfold executableAct
  split <;> rfl

/-- The command shows its settings on standard output, and nothing else there. -/
theorem output_showSettings {line : CommandLine} {host : Host} {project : String}
    {settings : Settings} (known : line.settingsProject host.files = .ok project)
    (loaded : load host.files host.home project line.config = .ok settings) (json : Bool)
    (theme : Theme) (mode : OutputMode) :
    (line.showSettings host json).result = .ok .succeeded ∧
      (Written.ofActs theme mode (line.showSettings host json).acts).output =
        settings.shown json := by
  have shows : line.showSettings host json =
      ⟨sourceActs (line.settingsSources host project) ++
        [.emit (settings.shown json), executableAct host settings], .ok .succeeded⟩ := by
    rw [CommandLine.showSettings, known]
    simp only [bind, Except.bind, pure, Except.pure, loaded]
  refine ⟨by rw [shows], ?_⟩
  rw [shows, Written.output_ofActs, Act.texts_append, texts_emit_sourceActs,
    Act.texts_cons_of_eq rfl, texts_emit_executableAct]
  simp [Act.text]

/-- What the command writes for settings, whatever these are, is a settings file with the same
settings. -/
theorem loadFile_shown (settings : Settings) :
    (∀ (line : CommandLine) (host : Host) (project : String) (theme : Theme) (mode : OutputMode),
      line.settingsProject host.files = .ok project →
      load host.files host.home project line.config = .ok settings →
      (line.showSettings host false).result = .ok .succeeded ∧
      (Written.ofActs theme mode (line.showSettings host false).acts).output =
        settings.shown false) ∧
    ∀ (files : Files) (path : String) (executable : Bool),
      files.node path = .ok (.file (settings.shown false).toUTF8 executable) →
      loadFile files path = .ok settings :=
  ⟨fun _ _ _ theme mode known loaded => output_showSettings known loaded false theme mode,
    fun _ _ _ found => loadFile_yaml found⟩

/-- Settings whose texts look like other things. -/
def oddSettings : Settings where
  executable := "~"
  arguments := ["- 1", "true", "# a\n\n  b", ""]
  sentinel := "0x1F"
  timeout := some 0

/-- A directory with the odd settings in a file. -/
def oddFiles : Files where
  root := .directory [("odd.yml", .file (oddSettings.shown false).toUTF8 false)]

private theorem node_oddFiles :
    oddFiles.node "/odd.yml" = .ok (.file (oddSettings.shown false).toUTF8 false) := by
  have place : oddFiles.locate "/odd.yml" = .ok ["odd.yml"] := by decide +kernel
  rw [Files.node, place]
  rfl

/-- The command that shows the settings in that file. -/
def showsOdd : CommandLine where
  config := some "/odd.yml"
  command := .config false

private theorem settingsProject_showsOdd : showsOdd.settingsProject oddFiles = .ok "/" := by
  decide +kernel

/-- Such settings are shown, and loaded again as they were. -/
theorem loadFile_shown_of_oddSettings :
    loadFile oddFiles "/odd.yml" = .ok oddSettings ∧
    (Written.ofActs .plain .normal
      (showsOdd.showSettings { files := oddFiles } false).acts).output =
      "flow_path: '~'\nargs:\n- '- 1'\n- 'true'\n- |-\n  # a\n\n    b\n- ''\n" ++
        "stdin_sentinel: '0x1F'\ntimeout_secs: 0\n" := by
  have written : oddSettings.shown false =
      "flow_path: '~'\nargs:\n- '- 1'\n- 'true'\n- |-\n  # a\n\n    b\n- ''\n" ++
        "stdin_sentinel: '0x1F'\ntimeout_secs: 0\n" := by decide +kernel
  obtain ⟨shows, reads⟩ := loadFile_shown oddSettings
  have loaded := reads oddFiles "/odd.yml" false node_oddFiles
  have shown := shows showsOdd { files := oddFiles } "/" .plain .normal
    settingsProject_showsOdd loaded
  exact ⟨loaded, shown.2.trans written⟩

end FlowCheck.Settings
