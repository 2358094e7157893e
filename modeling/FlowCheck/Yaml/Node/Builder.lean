import FlowCheck.Yaml.Node

/-!
# From tokens to nodes

The nodes of a document are built from its tokens one at a time. Open collections are kept on a
stack, each with the part that it expects next. What is left out, such as the value of a key, is
an empty node; a token that shows this is read again once the empty node is in its place.
-/

namespace FlowCheck.Yaml

/-- The part of a mapping that is expected next. -/
inductive EntryPart where
  /-- The indicator of a key, or the end. -/
  | keyMark
  /-- A key, after its indicator. -/
  | key
  /-- The indicator of the value of a key. -/
  | valueMark (key : Node)
  /-- The value of a key, after its indicator. -/
  | value (key : Node)

/-- The part of a mapping in braces that is expected next. -/
inductive BracesPart where
  /-- An entry or the end; the brace was just opened or a comma read. -/
  | entry
  /-- A comma or the end. -/
  | comma
  /-- A part of an entry whose key has an indicator. -/
  | part (part : EntryPart)

/-- An open collection. Its content so far is kept last first. -/
inductive Frame where
  | root
  /-- A sequence of lines with dashes; after a dash, an item is expected. -/
  | dashes (properties : Properties) (items : List Node) (afterDash : Bool)
  /-- The same inside a mapping and no deeper than it, which nothing closes. -/
  | bareDashes (properties : Properties) (items : List Node) (afterDash : Bool)
  | block (properties : Properties) (entries : List (Node × Node)) (part : EntryPart)
  /-- A sequence in brackets; an item is expected unless a comma is. -/
  | brackets (properties : Properties) (items : List Node) (afterItem : Bool)
  /-- A single entry as an item of a sequence in brackets. -/
  | pair (part : EntryPart)
  | braces (properties : Properties) (entries : List (Node × Node)) (part : BracesPart)

namespace Frame

/-- Whether a node is expected next. -/
def expectsNode : Frame → Bool
  | root => true
  | dashes _ _ afterDash | bareDashes _ _ afterDash => afterDash
  | block _ _ part | pair part =>
    match part with
    | .key | .value _ => true
    | .keyMark | .valueMark _ => false
  | brackets _ _ afterItem => !afterItem
  | braces _ _ part =>
    match part with
    | .entry | .part .key | .part (.value _) => true
    | .comma | .part .keyMark | .part (.valueMark _) => false

/-- Whether the expected node may be a block collection. -/
def allowsBlock : Frame → Bool
  | root | dashes .. | bareDashes .. | block .. => true
  | brackets .. | pair _ | braces .. => false

/-- Whether the expected node may be a sequence that is no deeper than this collection. -/
def allowsBareDashes : Frame → Bool
  | block .. => true
  | _ => false

/-- Whether the expected node is left out if this token comes. -/
def leavesOut (frame : Frame) (token : Token) : Bool :=
  match frame with
  | root =>
    match token with
    | .versionDirective .. | .tagDirective .. | .documentStart | .documentEnd | .streamEnd => true
    | _ => false
  | dashes .. => token = .blockEntry || token = .blockEnd
  | bareDashes .. =>
    token = .blockEntry || token = .key || token = .value || token = .blockEnd
  | block .. => token = .key || token = .value || token = .blockEnd
  | brackets .. => false
  | pair (.value _) => token = .flowEntry || token = .flowSequenceEnd
  | pair _ => false
  | braces _ _ (.part .key) =>
    token = .value || token = .flowEntry || token = .flowMappingEnd
  | braces _ _ (.part (.value _)) => token = .flowEntry || token = .flowMappingEnd
  | braces .. => false

/-- An open collection with the node that it expected. A pair that is complete becomes the node of
the collection around it. -/
def place (frame : Frame) (node : Node) : Option (Frame ⊕ Node) :=
  match frame with
  | root => some (.inr node)
  | dashes properties items true => some (.inl (dashes properties (node :: items) false))
  | bareDashes properties items true => some (.inl (bareDashes properties (node :: items) false))
  | block properties entries .key => some (.inl (block properties entries (.valueMark node)))
  | block properties entries (.value key) =>
    some (.inl (block properties ((key, node) :: entries) .keyMark))
  | brackets properties items false => some (.inl (brackets properties (node :: items) true))
  | pair .key => some (.inl (pair (.valueMark node)))
  | pair (.value key) => some (.inr (.mapping {} [(key, node)]))
  | braces properties entries .entry =>
    some (.inl (braces properties ((node, .empty {}) :: entries) .comma))
  | braces properties entries (.part .key) =>
    some (.inl (braces properties entries (.part (.valueMark node))))
  | braces properties entries (.part (.value key)) =>
    some (.inl (braces properties ((key, node) :: entries) .comma))
  | _ => none

end Frame

/-- The properties of a node whose content is still to come. -/
structure Pending where
  anchor : Option (List Char) := none
  tag : Option Tag := none
  deriving Repr, DecidableEq

/-- The tag handles of a document with what they stand for. -/
abbrev Handles := List (List Char × List UInt8)

/-- The handles that every document has, unless it gives them another meaning. -/
def standardHandles : Handles :=
  [(['!'], octetsOf "!"), (['!', '!'], octetsOf "tag:yaml.org,2002:")]

/-- The tag that a handle and a suffix stand for. -/
def Handles.tag? (handles : Handles) (handle : List Char) (suffix : List UInt8) : Option Tag :=
  if handle.isEmpty then some (Tag.ofOctets suffix)
  else ((handles ++ standardHandles).lookup handle).map fun replacement =>
    Tag.ofOctets (replacement ++ suffix)

/-- A document whose nodes are being built. -/
structure Building where
  handles : Handles
  /-- The names of anchors with their numbers, the latest first. -/
  anchors : List (List Char × Nat) := []
  pending : Option Pending := none
  stack : List Frame := [.root]
  /-- The node of the document, once it is complete. -/
  result : Option Node := none

namespace Building

/-- How many names of anchors there are. -/
def anchorCount (building : Building) : Nat :=
  building.anchors.length

/-- The properties of the node that begins now. A new anchor is numbered by the names before it, and
a name that comes again takes a number of its own from the same count. -/
def takeProperties (building : Building) : Building × Properties :=
  match building.pending with
  | none => (building, {})
  | some pending =>
    match pending.anchor with
    | none => ({ building with pending := none }, { tag := pending.tag })
    | some name =>
      let number := building.anchorCount
      let others := building.anchors.filter (·.1 ≠ name)
      ({ building with pending := none, anchors := (name, number) :: others },
        { anchor := some number, tag := pending.tag })

/-- Put a node where one is expected. -/
def place (building : Building) (node : Node) : Option Building :=
  match building.stack with
  | [] => none
  | frame :: rest => do
    match ← frame.place node with
    | .inl frame => return { building with stack := frame :: rest }
    | .inr node =>
      match rest with
      | [] => return { building with stack := [], result := some node }
      | outer :: rest =>
        match ← outer.place node with
        | .inl outer => return { building with stack := outer :: rest }
        | .inr _ => none

/-- Put an empty node, with the properties that were read, where a node is expected. -/
def placeEmpty (building : Building) : Option Building :=
  let (building, properties) := building.takeProperties
  building.place (.empty properties)

/-- Open a collection where a node is expected. -/
def push (building : Building) (make : Properties → Frame) : Building :=
  let (building, properties) := building.takeProperties
  { building with stack := make properties :: building.stack }

/-- Change what the innermost collection expects. -/
def expect (building : Building) (frame : Frame) : Option Building :=
  match building.stack with
  | _ :: rest => some { building with stack := frame :: rest }
  | [] => none

/-- Close the innermost collection, which becomes a node of the one around it. -/
def close (building : Building) (node : Node) : Option Building :=
  ({ building with stack := building.stack.drop 1 } : Building).place node

/-- Whether a token begins the content of the node that a collection expects. -/
def beginsContent (frame : Frame) : Token → Bool
  | .scalar .. | .flowSequenceStart | .flowMappingStart => true
  | .blockSequenceStart | .blockMappingStart => frame.allowsBlock
  | .blockEntry => frame.allowsBareDashes
  | _ => false

/-- Whether a token adds to properties that were read: each comes once. -/
def admits (pending : Pending) : Token → Bool
  | .anchor _ => pending.anchor.isNone
  | .tag .. => pending.tag.isNone
  | _ => false

/-- If properties were read and this token shows that their node has no content, put an empty node
in its place. -/
def settleProperties (building : Building) (token : Token) : Option Building :=
  match building.pending, building.stack with
  | some pending, frame :: _ =>
    if beginsContent frame token || admits pending token then some building
    else building.placeEmpty
  | _, _ => some building

/-- If this token shows that the expected node is left out, put an empty node in its place. -/
def settleEmpty (building : Building) (token : Token) : Option Building :=
  match building.pending, building.stack with
  | none, frame :: _ =>
    if frame.expectsNode && frame.leavesOut token then building.placeEmpty else some building
  | _, _ => some building

/-- If this token shows that a sequence that nothing closes is at its end, close it. -/
def settleBareDashes (building : Building) (token : Token) : Option Building :=
  match building.stack with
  | .bareDashes properties items false :: _ =>
    if token = .blockEntry then some building
    else building.close (.sequence properties items.reverse)
  | _ => some building

/-- If this token shows that a key has no value, give it an empty one. -/
def settleValue (building : Building) (token : Token) : Option Building :=
  if token = .value then some building
  else match building.stack with
    | .block properties entries (.valueMark key) :: _ =>
      building.expect (.block properties ((key, .empty {}) :: entries) .keyMark)
    | .braces properties entries (.part (.valueMark key)) :: _ =>
      building.expect (.braces properties ((key, .empty {}) :: entries) .comma)
    | .pair (.valueMark key) :: _ => building.close (.mapping {} [(key, .empty {})])
    | _ => some building

/-- The properties that were read, with one more. -/
def addProperty (building : Building) (token : Token) : Option Building :=
  let pending := building.pending.getD {}
  match token with
  | .anchor name => some { building with pending := some { pending with anchor := some name } }
  | .tag handle suffix => do
    let tag ← building.handles.tag? handle suffix
    return { building with pending := some { pending with tag := some tag } }
  | _ => none

/-- Begin the node that is expected with a token. -/
def beginNode (building : Building) (frame : Frame) (token : Token) : Option Building :=
  match token with
  | .anchor _ | .tag .. =>
    if building.pending.all fun pending => admits pending token then building.addProperty token
    else none
  | .alias name =>
    if building.pending.isSome then none
    else do
      let number ← building.anchors.lookup name
      building.place (.alias number)
  | .scalar text form =>
    let (building, properties) := building.takeProperties
    building.place (.scalar properties text form)
  | .flowSequenceStart => some (building.push fun properties => .brackets properties [] false)
  | .flowMappingStart => some (building.push fun properties => .braces properties [] .entry)
  | .blockSequenceStart =>
    if frame.allowsBlock then some (building.push fun properties => .dashes properties [] false)
    else none
  | .blockMappingStart =>
    if frame.allowsBlock then some (building.push fun properties => .block properties [] .keyMark)
    else none
  | .blockEntry =>
    if frame.allowsBareDashes then
      some (building.push fun properties => .bareDashes properties [] true)
    else none
  | _ => none

/-- Read a token that is expected by the innermost collection, once nothing is left out before it.
A key that is left out of a pair in brackets takes the token after it with it. -/
def accept (building : Building) (token : Token) : Option Building :=
  match building.stack with
  | [] => none
  | frame :: _ =>
    if building.pending.isSome then building.beginNode frame token
    else match frame, token with
      | .dashes properties items false, .blockEntry =>
        building.expect (.dashes properties items true)
      | .dashes properties items false, .blockEnd =>
        building.close (.sequence properties items.reverse)
      | .bareDashes properties items false, .blockEntry =>
        building.expect (.bareDashes properties items true)
      | .block properties entries .keyMark, .key =>
        building.expect (.block properties entries .key)
      | .block properties entries .keyMark, .blockEnd =>
        building.close (.mapping properties entries.reverse)
      | .block properties entries (.valueMark key), .value =>
        building.expect (.block properties entries (.value key))
      | .brackets properties items _, .flowSequenceEnd =>
        building.close (.sequence properties items.reverse)
      | .brackets properties items true, .flowEntry =>
        building.expect (.brackets properties items false)
      | .brackets _ _ false, .key => some (building.push fun _ => .pair .key)
      | .pair .key, .value | .pair .key, .flowEntry | .pair .key, .flowSequenceEnd =>
        building.placeEmpty
      | .pair (.valueMark key), .value => building.expect (.pair (.value key))
      | .braces properties entries .entry, .flowMappingEnd
      | .braces properties entries .comma, .flowMappingEnd =>
        building.close (.mapping properties entries.reverse)
      | .braces properties entries .comma, .flowEntry =>
        building.expect (.braces properties entries .entry)
      | .braces properties entries .entry, .key =>
        building.expect (.braces properties entries (.part .key))
      | .braces properties entries (.part (.valueMark key)), .value =>
        building.expect (.braces properties entries (.part (.value key)))
      | frame, token => if frame.expectsNode then building.beginNode frame token else none

/-- The document once everything that a token shows to be left out is in its place. -/
def settle (building : Building) (token : Token) : Option Building := do
  let building ← building.settleProperties token
  let building ← building.settleEmpty token
  let building ← building.settleBareDashes token
  building.settleValue token

end Building

end FlowCheck.Yaml
