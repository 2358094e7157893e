import FlowCheck.Proofs.Settings.Reader
import FlowCheck.Proofs.Yaml.Meaning
import FlowCheck.Settings.Layers
import Mathlib.Data.List.Induction

/-! # Settings from layers

Settings files are laid over each other as values, before any of them is read as settings. A field
of the result depends on one layer alone, the last that mentions its key: what earlier layers say of
the key is replaced whatever its type is, for no value of a setting is a mapping.
-/

namespace FlowCheck

open Yaml

/-- What there is of a layer: no file, a file without content, or one with a mapping whose keys are
text. -/
inductive Layer.Holds (files : Files) : Option String → Layer → Prop
  | absent : Holds files none []
  | empty {path text : String} {value : Value} (read : files.read path = .ok text)
      (means : Value.ofChars? text.toList = some value) (null : value.isNull = true) :
      Holds files (some path) []
  | mapping {path text : String} {layer : Layer} (read : files.read path = .ok text)
      (means : Value.ofChars? text.toList = some (.mapping layer.entries)) :
      Holds files (some path) layer

section OneLayer

variable {layer : Layer} {name : String}

end OneLayer

/-! ## Layers over each other -/

section Layers

/-- The entries of layers laid over each other, the first at the bottom. -/
def merged (layers : List Layer) : List (Value × Value) :=
  layers.foldl (fun below layer => overlayEntries below layer.entries) []

variable {layers : List Layer}

end Layers

/-! ## Settings -/

/-- A mention of a key is null or of the type of its field. -/
def Fits {α : Type} (read : Value → Option α) (mention : Option Value) : Prop :=
  ∀ value ∈ mention, value.isNull = true ∨ (read value).isSome = true

/-- What a field is if its key is last mentioned so: the value, or the default if that is null or
there is none. -/
def settled {α : Type} (read : Value → Option α) (default : α) (mention : Option Value) : α :=
  ((mention.filter fun value => !value.isNull).bind read).getD default

section Fields

variable {layers : List Layer}

end Fields

namespace Files

variable {files : Files}

end Files

namespace Settings

end Settings

end FlowCheck
