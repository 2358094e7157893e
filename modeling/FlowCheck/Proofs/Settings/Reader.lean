import FlowCheck.Proofs.Yaml.Overlay
import FlowCheck.Settings.Reader

/-! # Reading settings

Settings are read of the entries of a mapping as of a list with texts for keys. If no key comes
twice each field is read of its one entry, or has its default.
-/

namespace FlowCheck

open Yaml

/-- What a settings file says: its keys with their values. -/
abbrev Layer := List (String × Value)

/-- The entries of the mapping that a layer is. -/
def Layer.entries (layer : Layer) : List (Value × Value) :=
  layer.map fun entry => (.text entry.1, entry.2)

section Fields

variable {layer : Layer}

/-- The entries of a layer are keyed by its names. -/
theorem keyedEntries?_entries (layer : Layer) : keyedEntries? layer.entries = some layer := by
  induction layer with
  | nil => rfl
  | cons entry rest ih =>
      change keyedEntries? ((.text entry.1, entry.2) :: Layer.entries rest) = _
      rw [keyedEntries?] at ih ⊢
      rw [List.mapM_cons, ih]
      rfl

end Fields

namespace Settings

/-- A mapping is read as settings by its four fields. -/
theorem ofYaml?_entries {layer : Layer} {executable sentinel : String} {arguments : List String}
    {timeout : Option UInt64}
    (isExecutable : fieldValue? layer "flow_path" textValue? "flow" = some executable)
    (areArguments : fieldValue? layer "args" textsValue?
      ["check-contents", "--show-all-errors", "--json"] = some arguments)
    (isSentinel : fieldValue? layer "stdin_sentinel" textValue? "-" = some sentinel)
    (isTimeout : fieldValue? layer "timeout_secs" secondsValue? none = some timeout) :
    ofYaml? (.mapping layer.entries) = some ⟨executable, arguments, sentinel, timeout⟩ := by
  have keys : keyedEntries? layer.entries = some layer := keyedEntries?_entries layer
  rw [ofYaml?]
  simp only [Value.untagged, keys, Option.bind_eq_bind, Option.bind_some, isExecutable,
    areArguments, isSentinel, isTimeout]
  rfl

end Settings

end FlowCheck
