import FlowCheck.Settings
import FlowCheck.Yaml.Value

/-!
# Reading settings

Settings are a mapping with text for keys. Unknown keys are passed over, a known one may come once,
and each value has to be of its field's type. Tags do not matter.
-/

namespace FlowCheck

open Yaml

/-- A text, tags aside. -/
def textValue? (value : Value) : Option String :=
  match value.untagged with
  | .text content => some content
  | _ => none

/-- A list of texts, tags aside; null is the empty list. -/
def textsValue? (value : Value) : Option (List String) :=
  match value.untagged with
  | .sequence items => items.mapM textValue?
  | .null => some []
  | _ => none

/-- A number of seconds, tags aside; null itself is none. -/
def secondsValue? (value : Value) : Option (Option UInt64) :=
  match value with
  | .null => some none
  | value =>
    match value.untagged with
    | .integer seconds =>
      if 0 ≤ seconds ∧ seconds < 0x10000000000000000 then
        some (some (UInt64.ofNat seconds.toNat))
      else none
    | _ => none

/-- The keys of a mapping as texts, with their values. -/
def keyedEntries? (entries : List (Value × Value)) : Option (List (String × Value)) :=
  entries.mapM fun entry => do return (← textValue? entry.1, entry.2)

/-- The value of a field, or its default; a field that comes twice is refused. -/
def fieldValue? {α : Type} (entries : List (String × Value)) (name : String)
    (read : Value → Option α) (default : α) : Option α :=
  match entries.filter fun entry => entry.1 = name with
  | [] => some default
  | [entry] => read entry.2
  | _ => none

namespace Settings

/-- The settings that a value is. -/
def ofYaml? (value : Value) : Option Settings := do
  let entries ← match value.untagged with
    | .mapping entries => keyedEntries? entries
    | .null => some []
    | _ => none
  let standard : Settings := {}
  return {
    executable := ← fieldValue? entries "flow_path" textValue? standard.executable
    arguments := ← fieldValue? entries "args" textsValue? standard.arguments
    sentinel := ← fieldValue? entries "stdin_sentinel" textValue? standard.sentinel
    timeout := ← fieldValue? entries "timeout_secs" secondsValue? standard.timeout }

end Settings

end FlowCheck
