/-!
# Tokens of YAML

A YAML text is a sequence of tokens. The indentation of a block collection has become tokens at its
beginning and at its end.
-/

namespace FlowCheck.Yaml

/-- How a scalar is written. -/
inductive ScalarForm where
  | plain
  | quoted
  | block
  deriving Repr, DecidableEq

/-- A token. -/
inductive Token where
  | versionDirective (major minor : Nat)
  | tagDirective (handle : List Char) (replacement : List UInt8)
  | documentStart
  | documentEnd
  | streamEnd
  | blockSequenceStart
  | blockMappingStart
  | blockEnd
  | flowSequenceStart
  | flowSequenceEnd
  | flowMappingStart
  | flowMappingEnd
  | blockEntry
  | flowEntry
  | key
  | value
  | alias (name : List Char)
  | anchor (name : List Char)
  /-- A tag's handle is empty when the tag is written out in full. -/
  | tag (handle : List Char) (suffix : List UInt8)
  | scalar (text : List Char) (form : ScalarForm)
  deriving Repr, DecidableEq

end FlowCheck.Yaml
