import FlowCheck.Yaml.Value

/-!
# Overlaying values

A value laid over another replaces it, but mappings are merged key by key: a null takes a key away,
a key that both have is overlaid, and a new key comes last. Where a key is taken away, the last
entry moves into its place.
-/

namespace FlowCheck.Yaml

/-- The entries without a key. -/
def removeKey (key : Value) : List (Value × Value) → List (Value × Value)
  | [] => []
  | entry :: rest =>
    if entry.1.same key then
      match rest.getLast? with
      | some last => last :: rest.dropLast
      | none => []
    else entry :: removeKey key rest

/-- Whether entries have a key. -/
def hasKey (entries : List (Value × Value)) (key : Value) : Bool :=
  entries.any fun entry => entry.1.same key

mutual

/-- A value laid over another. -/
def overlay (base : Value) : Value → Value
  | .mapping changes =>
    match base with
    | .mapping entries => .mapping (overlayEntries entries changes)
    | _ => .mapping changes
  | top => top

/-- The entries of a mapping laid over those of another, one after the other. -/
def overlayEntries (entries : List (Value × Value)) :
    List (Value × Value) → List (Value × Value)
  | [] => entries
  | (key, value) :: rest =>
    let changed :=
      if value.isNull then removeKey key entries
      else if hasKey entries key then
        entries.map fun entry =>
          if entry.1.same key then (entry.1, overlay entry.2 value) else entry
      else entries ++ [(key, value)]
    overlayEntries changed rest

end

end FlowCheck.Yaml
