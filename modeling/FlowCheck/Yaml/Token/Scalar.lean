import FlowCheck.Yaml.Cursor

/-!
# Scalars

The four ways to write a scalar that has no indicators of its own: plain, in single or double
quotes, and as a block of lines. Inside the first three, a gap of blanks and line breaks is folded.
-/

namespace FlowCheck.Yaml

/-- The blanks and breaks between two parts of a scalar, last first. Blanks count up to the first
break only. -/
structure Gap where
  blanks : List Char := []
  breaks : List Char := []
  /-- The gap begins with a break that a backslash takes away. -/
  escaped : Bool := false
  deriving Repr, DecidableEq

namespace Gap

/-- Whether the gap reaches a new line. -/
def reachesLine (gap : Gap) : Bool :=
  gap.escaped || !gap.breaks.isEmpty

/-- A gap with one more blank or break. -/
def add (gap : Gap) (c : Char) : Gap :=
  if isBreak c then { gap with breaks := c :: gap.breaks }
  else if gap.reachesLine then gap
  else { gap with blanks := c :: gap.blanks }

/-- What a list of breaks folds to: a single newline becomes a space, of several the first is
dropped. The Unicode separators stay. -/
def fold : List Char → List Char
  | [] => []
  | '\n' :: [] => [' ']
  | '\n' :: rest => rest
  | breaks => breaks

/-- What the gap stands for in the text. -/
def text (gap : Gap) : List Char :=
  if gap.escaped then gap.breaks.reverse
  else if gap.breaks.isEmpty then gap.blanks.reverse
  else fold gap.breaks.reverse

end Gap

/-- The characters that a backslash stands for together with one other character. -/
def escapedChar? (c : Char) : Option Char :=
  match c with
  | '0' => some '\x00'
  | 'a' => some '\x07'
  | 'b' => some '\x08'
  | 't' | '\t' => some '\t'
  | 'n' => some '\n'
  | 'v' => some '\x0b'
  | 'f' => some '\x0c'
  | 'r' => some '\r'
  | 'e' => some '\x1b'
  | ' ' | '"' | '/' | '\\' => some c
  | 'N' => some '\u0085'
  | '_' => some '\u00a0'
  | 'L' => some '\u2028'
  | 'P' => some '\u2029'
  | _ => none

/-- How many hexadecimal digits follow a backslash and a letter. -/
def escapeDigits? (c : Char) : Option Nat :=
  match c with
  | 'x' => some 2
  | 'u' => some 4
  | 'U' => some 8
  | _ => none

/-- How far an escape in double quotes has been read. -/
inductive Escape where
  | outside
  | begun
  /-- Hexadecimal digits are still to come, and so much is their value so far. -/
  | digits (left value : Nat)
  deriving Repr, DecidableEq

/-- Read a scalar in double quotes, the first of which was read. Its text so far is given last
character first. -/
def readDoubleQuoted (mark : Mark) (text : List Char) (gap : Gap) (escape : Escape) :
    List Char → Option (List Char × Cursor)
  | [] => none
  | c :: rest =>
    let next := mark.after c
    match escape with
    | .digits left value => do
      let value := 16 * value + (← hexValue? c)
      if left > 1 then readDoubleQuoted next text {} (.digits (left - 1) value) rest
      else if value.isValidChar then
        readDoubleQuoted next (Char.ofNat value :: text) {} .outside rest
      else none
    | .begun =>
      if isBreak c then readDoubleQuoted next text { escaped := true } .outside rest
      else match escapedChar? c, escapeDigits? c with
        | some named, _ => readDoubleQuoted next (named :: text) {} .outside rest
        | none, some count => readDoubleQuoted next text {} (.digits count 0) rest
        | none, none => none
    | .outside =>
      if isBlank c || isBreak c then readDoubleQuoted next text (gap.add c) .outside rest
      else if Cursor.atDocumentMarker mark.column (c :: rest) then none
      else
        let text := gap.text.reverse ++ text
        if c = '"' then some (text.reverse, ⟨rest, next⟩)
        else if c = '\\' then readDoubleQuoted next text {} .begun rest
        else readDoubleQuoted next (c :: text) {} .outside rest

/-- Read a scalar in single quotes, the first of which was read. After the first of two quotes the
second is `doubled`. -/
def readSingleQuoted (mark : Mark) (text : List Char) (gap : Gap) (doubled : Bool) :
    List Char → Option (List Char × Cursor)
  | [] => none
  | c :: rest =>
    let next := mark.after c
    if doubled then readSingleQuoted next (c :: text) {} false rest
    else if isBlank c || isBreak c then readSingleQuoted next text (gap.add c) false rest
    else if Cursor.atDocumentMarker mark.column (c :: rest) then none
    else
      let text := gap.text.reverse ++ text
      if c ≠ '\'' then readSingleQuoted next (c :: text) {} false rest
      else if rest.head? = some '\'' then readSingleQuoted next text {} true rest
      else some (text.reverse, ⟨rest, next⟩)

/-- A plain scalar and the place behind it and the gap after it. -/
structure PlainScalar where
  text : List Char
  cursor : Cursor
  /-- The gap after the scalar reaches a new line. -/
  reachesLine : Bool
  deriving Repr, DecidableEq

/-- Whether a plain scalar ends before a character that begins a word. A comment has to begin a
word; a block's lines have to be indented by `indent`. -/
def endsPlainWord (flow : Bool) (indent column : Nat) (text : List Char) : Bool :=
  Cursor.atDocumentMarker column text || text.head? = some '#' || (!flow && column < indent)

/-- Whether a plain scalar ends before a character, wherever that stands. -/
def endsPlain (flow : Bool) (c : Char) (next : Option Char) : Bool :=
  (c = ':' && isGap next) || (flow && isFlowIndicator c)

/-- A colon that in a flow collection is neither text nor indicator. -/
def isStrayColon (flow : Bool) (c : Char) (next : Option Char) : Bool :=
  flow && c = ':' && match next with
    | some next => isFlowIndicator next || next = '?'
    | none => false

/-- Read a plain scalar. Its text so far is given last character first; a word begins after a
gap. -/
def readPlain (flow : Bool) (indent : Nat) (mark : Mark) (text : List Char) (gap : Gap) :
    List Char → Option PlainScalar
  | [] => some ⟨text.reverse, ⟨[], mark⟩, gap.reachesLine⟩
  | c :: rest =>
    let beginsWord := gap.reachesLine || !gap.blanks.isEmpty
    if isBlank c || isBreak c then
      if gap.reachesLine && c = '\t' && mark.column < indent then none
      else readPlain flow indent (mark.after c) text (gap.add c) rest
    else if beginsWord && endsPlainWord flow indent mark.column (c :: rest) then
      some ⟨text.reverse, ⟨c :: rest, mark⟩, gap.reachesLine⟩
    else if isStrayColon flow c rest.head? then none
    else if endsPlain flow c rest.head? then
      some ⟨text.reverse, ⟨c :: rest, mark⟩, gap.reachesLine⟩
    else readPlain flow indent (mark.after c) (c :: (gap.text.reverse ++ text)) {} rest

/-- What happens to the breaks at the end of a block. -/
inductive Chomping where
  | strip
  | clip
  | keep
  deriving Repr, DecidableEq

/-- The header of a block: what happens to its end, and by how much it is indented, if that is
given. -/
structure BlockHeader where
  chomping : Chomping := .clip
  indent : Option Nat := none
  deriving Repr, DecidableEq

/-- The chomping that an indicator asks for. -/
def chomping? : Char → Option Chomping
  | '-' => some .strip
  | '+' => some .keep
  | _ => none

/-- The depth that a digit asks for, if it is one; zero is refused. -/
def blockIndent? (c : Char) : Option (Option Nat) :=
  if c = '0' then none
  else if '1' ≤ c ∧ c ≤ '9' then some (some (c.toNat - 48))
  else some none

/-- The header behind the indicator of a block, and its length. -/
def blockHeader? (text : List Char) : Option (BlockHeader × Nat) :=
  match text with
  | [] => some ({}, 0)
  | first :: rest =>
    match chomping? first with
    | some chomping => do
      match rest with
      | [] => return ({ chomping }, 1)
      | second :: _ =>
        match ← blockIndent? second with
        | some indent => return ({ chomping, indent := some indent }, 2)
        | none => return ({ chomping }, 1)
    | none => do
      match ← blockIndent? first with
      | none => return ({}, 0)
      | some indent =>
        match rest.head?.bind chomping? with
        | some chomping => return ({ chomping, indent := some indent }, 2)
        | none => return ({ indent := some indent }, 1)

/-- How far a block has been read. -/
structure BlockText where
  /-- The depth of the block's lines, once it is known. -/
  indent : Option Nat
  /-- The greatest column that leading blanks have reached. -/
  deepest : Nat := 0
  /-- The text so far, last character first. -/
  text : List Char := []
  /-- The break after the last line that is not empty. -/
  lineBreak : Option Char := none
  /-- The breaks of the empty lines after it, last first. -/
  breaks : List Char := []
  /-- The last line that is not empty begins with a blank. -/
  afterBlank : Bool := false
  /-- A line is being read that is not empty. -/
  inLine : Bool := false
  deriving Repr, DecidableEq

/-- A block at the first character of a line that is not empty. In a folded block the break before
it gives way, unless this line or the one before begins with a blank. -/
def BlockText.beginLine (block : BlockText) (literal : Bool) (c : Char) : BlockText :=
  let folds := !literal && block.lineBreak = some '\n' && !block.afterBlank && !isBlank c
  let joint :=
    if folds then (if block.breaks.isEmpty then [' '] else []) else block.lineBreak.toList
  { block with
    text := c :: (block.breaks ++ joint ++ block.text)
    lineBreak := none
    breaks := []
    afterBlank := isBlank c
    inLine := true }

/-- The depth of a block's lines: given, or that of the first line that is not empty, but more than
the depth of the collection around it. -/
def BlockText.depth (block : BlockText) (least : Nat) (column : Nat) : Nat :=
  block.indent.getD (max (max block.deepest column) (max least 1))

/-- Read the lines of a block that are at least `least` deep. -/
def readBlock (literal : Bool) (least : Nat) (block : BlockText) (mark : Mark) :
    List Char → Option (BlockText × Cursor)
  | [] => some (block, ⟨[], mark⟩)
  | c :: rest =>
    if block.inLine then
      if isBreak c then
        readBlock literal least { block with lineBreak := some c, inLine := false }
          (mark.after c) rest
      else readBlock literal least { block with text := c :: block.text } (mark.after c) rest
    else
      let indenting := block.indent.all fun indent => mark.column < indent
      if indenting && c = ' ' then readBlock literal least block (mark.after c) rest
      else if indenting && c = '\t' then none
      else if isBreak c then
        readBlock literal least
          { block with breaks := c :: block.breaks, deepest := max block.deepest mark.column }
          (mark.after c) rest
      else
        let depth := block.depth least mark.column
        if mark.column = depth then
          readBlock literal least ({ block with indent := some depth }.beginLine literal c)
            (mark.after c) rest
        else some (block, ⟨c :: rest, mark⟩)

/-- The text of a block. -/
def BlockText.chomped (block : BlockText) : Chomping → List Char
  | .strip => block.text.reverse
  | .clip => (block.lineBreak.toList ++ block.text).reverse
  | .keep => (block.breaks ++ block.lineBreak.toList ++ block.text).reverse

end FlowCheck.Yaml
