import FlowCheck.Yaml.Token.Property
import FlowCheck.Yaml.Token.Scalar

/-!
# From text to tokens

Tokens are read from left to right. That a scalar was a key is known only at the colon after it, so
the place of a possible key is kept and the tokens of the key are inserted there later. Indentation
is kept as the stack of the columns of open block collections.
-/

namespace FlowCheck.Yaml

/-- A place where a key may turn out to begin. -/
structure PossibleKey where
  /-- How many tokens stand before it. -/
  before : Nat
  mark : Mark
  /-- Nothing but a key may begin here. -/
  required : Bool
  deriving Repr, DecidableEq

/-- Whether a key that begins at a place cannot reach another place: it has to end on its line,
within 1024 octets. -/
def PossibleKey.isStale (key : PossibleKey) (mark : Mark) : Bool :=
  key.mark.line < mark.line || key.mark.index + 1024 < mark.index

/-- How far a text has been read. -/
structure Reading where
  cursor : Cursor
  /-- The columns of open block collections, innermost first. -/
  indents : List Nat := []
  /-- The possible key of the innermost collection. -/
  key : Option PossibleKey := none
  /-- The possible keys outside of the open flow collections, innermost first. -/
  outerKeys : List (Option PossibleKey) := []
  /-- Whether a key may begin here. -/
  keyAllowed : Bool := true
  /-- The tokens so far, last first, and their number. -/
  tokens : List Token := []
  count : Nat := 0

namespace Reading

/-- Whether a flow collection is open. -/
def inFlow (reading : Reading) : Bool :=
  !reading.outerKeys.isEmpty

/-- The least column of what belongs to the innermost block collection without being one of its
entries. -/
def innerColumn (reading : Reading) : Nat :=
  match reading.indents with
  | [] => 0
  | column :: _ => column + 1

/-- Add a token at the end. -/
def push (reading : Reading) (token : Token) : Reading :=
  { reading with tokens := token :: reading.tokens, count := reading.count + 1 }

/-- Insert a token after the first `before` ones. -/
def insert (reading : Reading) (before : Nat) (token : Token) : Reading :=
  let behind := reading.count - before
  { reading with
    tokens := reading.tokens.take behind ++ token :: reading.tokens.drop behind
    count := reading.count + 1 }

/-- Skip characters. -/
def skip (reading : Reading) (count : Nat) : Reading :=
  { reading with cursor := reading.cursor.skip count }

/-- Open a block collection at a column deeper than the innermost one, with a token after the first
`before` ones. -/
def openBlock (reading : Reading) (column before : Nat) (token : Token) : Reading :=
  if reading.inFlow || column < reading.innerColumn then reading
  else { reading.insert before token with indents := column :: reading.indents }

/-- Close the block collections that are deeper than a column. -/
def closeBlocks (reading : Reading) (column : Nat) : Reading :=
  if reading.inFlow then reading
  else
    let deeper := reading.indents.takeWhile (column < ·)
    { reading with
      indents := reading.indents.drop deeper.length
      tokens := List.replicate deeper.length .blockEnd ++ reading.tokens
      count := reading.count + deeper.length }

/-- Close all block collections. -/
def closeAllBlocks (reading : Reading) : Reading :=
  if reading.inFlow then reading
  else
    { reading with
      indents := []
      tokens := List.replicate reading.indents.length .blockEnd ++ reading.tokens
      count := reading.count + reading.indents.length }

/-- Note that a key may begin here, if one may. -/
def saveKey (reading : Reading) : Option Reading :=
  if reading.keyAllowed then
    if reading.key.any (·.required) then none
    else
      let required := !reading.inFlow && reading.indents.head? = some reading.cursor.mark.column
      some { reading with key := some ⟨reading.count, reading.cursor.mark, required⟩ }
  else some reading

/-- Give up the possible key of the innermost collection. -/
def dropKey (reading : Reading) : Option Reading :=
  if reading.key.any (·.required) then none else some { reading with key := none }

/-- Give up the possible keys that cannot reach this place. -/
def dropStaleKeys (reading : Reading) : Option Reading :=
  let isStale := fun key : PossibleKey => key.isStale reading.cursor.mark
  let isLost := fun key : PossibleKey => isStale key && key.required
  if (reading.key :: reading.outerKeys).any (·.any isLost) then none
  else
    let keep := fun key : Option PossibleKey => key.filter fun key => !isStale key
    some { reading with key := keep reading.key, outerKeys := reading.outerKeys.map keep }

/-- Skip what separates tokens: blanks, comments and breaks. In a block a new line allows keys, and
where a key may begin a tab separates nothing. -/
def skipGap (flow keyAllowed comment : Bool) (mark : Mark) : List Char → Cursor × Bool
  | [] => (⟨[], mark⟩, keyAllowed)
  | c :: rest =>
    let next := mark.after c
    if isBreak c then skipGap flow (keyAllowed || !flow) false next rest
    else if comment then skipGap flow keyAllowed true next rest
    else if c = '#' then skipGap flow keyAllowed true next rest
    else if c = ' ' || (c = '\t' && (flow || !keyAllowed)) ||
        (c = byteOrderMark && mark.column = 0) then
      skipGap flow keyAllowed false next rest
    else (⟨c :: rest, mark⟩, keyAllowed)

/-- The reading at its next token. -/
def toToken (reading : Reading) : Reading :=
  let (cursor, keyAllowed) :=
    skipGap reading.inFlow reading.keyAllowed false reading.cursor.mark reading.cursor.rest
  { reading with cursor, keyAllowed }

/-- Read a token that stands outside of all block collections. -/
def atTop (reading : Reading) : Option Reading := do
  let reading ← reading.closeAllBlocks.dropKey
  return { reading with keyAllowed := false }

/-- Read the bracket that opens a flow collection. -/
def openFlow (reading : Reading) (token : Token) : Option Reading := do
  let reading ← reading.saveKey
  let reading := { reading with
    outerKeys := reading.key :: reading.outerKeys
    key := none
    keyAllowed := true }
  return (reading.skip 1).push token

/-- Read the bracket that closes a flow collection. -/
def closeFlow (reading : Reading) (token : Token) : Option Reading := do
  let reading ← reading.dropKey
  let (key, outerKeys) := match reading.outerKeys with
    | key :: outerKeys => (key, outerKeys)
    | [] => (reading.key, [])
  return ({ reading with key, outerKeys, keyAllowed := false }.skip 1).push token

/-- Read a comma. -/
def readComma (reading : Reading) : Option Reading := do
  let reading ← reading.dropKey
  return ({ reading with keyAllowed := true }.skip 1).push .flowEntry

/-- Read the dash of a block sequence's entry. -/
def readDash (reading : Reading) : Option Reading := do
  if !reading.inFlow && !reading.keyAllowed then none
  let reading := reading.openBlock reading.cursor.mark.column reading.count .blockSequenceStart
  let reading ← reading.dropKey
  return ({ reading with keyAllowed := true }.skip 1).push .blockEntry

/-- Read the question mark before a key. -/
def readKeyMark (reading : Reading) : Option Reading := do
  if !reading.inFlow && !reading.keyAllowed then none
  let reading := reading.openBlock reading.cursor.mark.column reading.count .blockMappingStart
  let reading ← reading.dropKey
  return ({ reading with keyAllowed := !reading.inFlow }.skip 1).push .key

/-- Read the colon before a value. If a possible key is waiting for it, it was one. -/
def readColon (reading : Reading) : Option Reading := do
  match reading.key with
  | some key =>
    let reading := reading.insert key.before .key
    let reading := reading.openBlock key.mark.column key.before .blockMappingStart
    return ({ reading with key := none, keyAllowed := false }.skip 1).push .value
  | none =>
    if !reading.inFlow && !reading.keyAllowed then none
    let reading := reading.openBlock reading.cursor.mark.column reading.count .blockMappingStart
    return ({ reading with keyAllowed := !reading.inFlow }.skip 1).push .value

/-- Read a token that may begin a key but after which none may begin. -/
def readPart (reading : Reading) (read : Cursor → Option (Token × Cursor)) : Option Reading := do
  let reading ← reading.saveKey
  let (token, cursor) ← read reading.cursor
  return { reading with cursor, keyAllowed := false }.push token

/-- Read a block scalar. -/
def readBlockScalar (reading : Reading) (literal : Bool) : Option Reading := do
  let reading ← reading.dropKey
  let start := reading.cursor.skip 1
  let (header, count) ← blockHeader? start.rest
  let start ← (start.skip count).skipLineEnd?
  let least := reading.innerColumn
  let indent := header.indent.map fun depth => (least - 1) + depth
  let (block, cursor) ← readBlock literal least { indent } start.mark start.rest
  return { reading with cursor, keyAllowed := true }.push
    (.scalar (block.chomped header.chomping) .block)

/-- Read a scalar in quotes. -/
def readQuotedScalar (reading : Reading)
    (read : Mark → List Char → Option (List Char × Cursor)) : Option Reading :=
  reading.readPart fun cursor => do
    let start := cursor.skip 1
    let (text, after) ← read start.mark start.rest
    return (.scalar text .quoted, after)

/-- Read a plain scalar. If the gap after it reaches a new line, a key may begin there. -/
def readPlainScalar (reading : Reading) : Option Reading := do
  let reading ← reading.saveKey
  let scalar ← readPlain reading.inFlow reading.innerColumn reading.cursor.mark [] {}
    reading.cursor.rest
  return { reading with cursor := scalar.cursor, keyAllowed := scalar.reachesLine }.push
    (.scalar scalar.text .plain)

/-- Read the token that begins with a character, before a rest. -/
def readToken (reading : Reading) (c : Char) (rest : List Char) : Option Reading :=
  let flow := reading.inFlow
  let separate := isGap rest.head?
  let column := reading.cursor.mark.column
  if column = 0 && c = '%' then do
    let reading ← reading.atTop
    let (token, cursor) ← readDirective reading.cursor
    return { reading with cursor }.push token
  else if Cursor.atDocumentMarker column (c :: rest) then do
    let reading ← reading.atTop
    return (reading.skip 3).push (if c = '-' then .documentStart else .documentEnd)
  else if c = '[' then reading.openFlow .flowSequenceStart
  else if c = '{' then reading.openFlow .flowMappingStart
  else if c = ']' then reading.closeFlow .flowSequenceEnd
  else if c = '\x7d' then reading.closeFlow .flowMappingEnd
  else if c = ',' then reading.readComma
  else if c = '-' && separate then reading.readDash
  else if c = '?' && (flow || separate) then reading.readKeyMark
  else if c = ':' && (flow || separate) then reading.readColon
  else if c = '*' || c = '&' then
    reading.readPart fun cursor => do
      let (name, after) ← readAnchorName (cursor.skip 1)
      return (if c = '*' then .alias name else .anchor name, after)
  else if c = '!' then reading.readPart (readTag flow)
  else if c = '|' && !flow then reading.readBlockScalar true
  else if c = '>' && !flow then reading.readBlockScalar false
  else if c = '\'' then reading.readQuotedScalar fun mark => readSingleQuoted mark [] {} false
  else if c = '"' then reading.readQuotedScalar fun mark => readDoubleQuoted mark [] {} .outside
  else if (!isBlank c && !isIndicator c) || (c = '-' && !rest.head?.any isBlank) ||
      (!flow && (c = '?' || c = ':') && !separate) then
    reading.readPlainScalar
  else none

/-- Read what is left, token by token, each of which takes at least one character. -/
def run : Nat → Reading → Option (List Token)
  | 0, _ => none
  | fuel + 1, reading => do
    let reading ← reading.toToken.dropStaleKeys
    match reading.cursor.rest with
    | [] =>
      let reading ← reading.closeAllBlocks.dropKey
      return (reading.push .streamEnd).tokens.reverse
    | c :: rest =>
      run fuel (← (reading.closeBlocks reading.cursor.mark.column).readToken c rest)

end Reading

/-- The tokens of a text, if it can be cut into tokens. -/
def Token.ofChars? (text : List Char) : Option (List Token) :=
  if text.all isAllowed then
    let text := unifyBreaks text
    Reading.run (text.length + 1) { cursor := ⟨text, {}⟩ }
  else none

end FlowCheck.Yaml
