import FlowCheck.Json.Tree

/-!
# Reading JSON

The reader is a pushdown automaton: it takes one character at a time and keeps the open arrays and
objects on a stack. It asks only for the grammar, so nesting has no limit here. Blanks are space,
tab, carriage return and newline; a string holds no control character.
-/

namespace FlowCheck.Json

/-- A container that is still open. Items and members are kept in reverse. -/
inductive Frame where
  | array (items : List Tree)
  | object (members : List (List TextUnit × Tree)) (key : List TextUnit)

/-- What a string being read will be. -/
inductive TextRole where
  | value
  | key (members : List (List TextUnit × Tree))

/-- How far a `\` escape has been read. -/
inductive Escape where
  | none
  | started
  | hex (digits value : Nat)

/-- The part of a number being read, in the order of the grammar. Digits are kept in reverse. -/
inductive NumeralPhase where
  | sign
  | zero
  | whole
  | point
  | fraction
  | exponentMark
  | exponentSign
  | exponent
  deriving DecidableEq

/-- A number being read; its digits are in reverse. -/
structure NumeralDraft where
  negative : Bool
  whole : List Char
  fraction : List Char
  exponentNegative : Bool
  exponent : List Char
  phase : NumeralPhase

/-- What the reader expects next. -/
inductive Mode where
  /-- A value. -/
  | value
  /-- The first item of an array, or its end. -/
  | firstItem
  /-- The first member of an object, or its end. -/
  | firstMember
  /-- The key of another member. -/
  | nextMember (members : List (List TextUnit × Tree))
  /-- The colon after a key. -/
  | colon (members : List (List TextUnit × Tree)) (key : List TextUnit)
  /-- A comma or the end of the innermost container, or the end of the text. -/
  | after (value : Tree)
  /-- The rest of a string. -/
  | text (role : TextRole) (units : List TextUnit) (escape : Escape)
  /-- The rest of a number. -/
  | number (draft : NumeralDraft)
  /-- The rest of `null`, `true` or `false`. -/
  | literal (rest : List Char) (value : Tree)

/-- The reader between two characters. -/
structure Reader where
  stack : List Frame
  mode : Mode

/-- The reader before the first character. -/
def Reader.start : Reader :=
  ⟨[], .value⟩

/-- Whether JSON skips a character between its tokens. -/
def isBlank (c : Char) : Bool :=
  c = ' ' || c = '\t' || c = '\n' || c = '\r'

/-- The value of a hexadecimal digit. -/
def hexDigit? (c : Char) : Option Nat :=
  if '0' ≤ c ∧ c ≤ '9' then some (c.toNat - 48)
  else if 'a' ≤ c ∧ c ≤ 'f' then some (c.toNat - 87)
  else if 'A' ≤ c ∧ c ≤ 'F' then some (c.toNat - 55)
  else none

/-- The character that a one-letter escape stands for. -/
def escaped? : Char → Option Char
  | '"' => some '"'
  | '\\' => some '\\'
  | '/' => some '/'
  | 'b' => some '\x08'
  | 'f' => some '\x0c'
  | 'n' => some '\n'
  | 'r' => some '\r'
  | 't' => some '\t'
  | _ => none

namespace NumeralDraft

/-- A number whose first character has been read. -/
def start? (c : Char) : Option NumeralDraft :=
  if c = '-' then some ⟨true, [], [], false, [], .sign⟩
  else if c = '0' then some ⟨false, ['0'], [], false, [], .zero⟩
  else if c.isDigit then some ⟨false, [c], [], false, [], .whole⟩
  else none

/-- What the next character adds to a number. A number may go on after a complete part, and must go
on after a sign, a point or an exponent mark. -/
inductive Step where
  | more (draft : NumeralDraft)
  | complete
  | refused

/-- Continue a number after its whole part or its fraction. -/
def suffix (draft : NumeralDraft) (c : Char) : Step :=
  if c = 'e' ∨ c = 'E' then .more { draft with phase := .exponentMark } else .complete

/-- Give a number its next character. -/
def step (draft : NumeralDraft) (c : Char) : Step :=
  match draft.phase with
  | .sign =>
    if c = '0' then .more { draft with whole := [c], phase := .zero }
    else if c.isDigit then .more { draft with whole := [c], phase := .whole }
    else .refused
  | .zero =>
    if c.isDigit then .refused
    else if c = '.' then .more { draft with phase := .point }
    else draft.suffix c
  | .whole =>
    if c.isDigit then .more { draft with whole := c :: draft.whole }
    else if c = '.' then .more { draft with phase := .point }
    else draft.suffix c
  | .point =>
    if c.isDigit then .more { draft with fraction := [c], phase := .fraction } else .refused
  | .fraction =>
    if c.isDigit then .more { draft with fraction := c :: draft.fraction } else draft.suffix c
  | .exponentMark =>
    if c = '+' then .more { draft with phase := .exponentSign }
    else if c = '-' then .more { draft with exponentNegative := true, phase := .exponentSign }
    else if c.isDigit then .more { draft with exponent := [c], phase := .exponent }
    else .refused
  | .exponentSign =>
    if c.isDigit then .more { draft with exponent := [c], phase := .exponent } else .refused
  | .exponent =>
    if c.isDigit then .more { draft with exponent := c :: draft.exponent } else .complete

/-- The number read, unless it stops where it must go on. -/
def finish? (draft : NumeralDraft) : Option Numeral :=
  match draft.phase with
  | .zero | .whole | .fraction =>
    some ⟨draft.negative, draft.whole.reverse, draft.fraction.reverse, none⟩
  | .exponent =>
    some ⟨draft.negative, draft.whole.reverse, draft.fraction.reverse,
      some (draft.exponentNegative, draft.exponent.reverse)⟩
  | _ => none

end NumeralDraft

/-- Begin a value with its first character. -/
def beginValue (stack : List Frame) (c : Char) : Option Reader :=
  if c = '"' then some ⟨stack, .text .value [] .none⟩
  else if c = '[' then some ⟨.array [] :: stack, .firstItem⟩
  else if c = '{' then some ⟨stack, .firstMember⟩
  else if c = 'n' then some ⟨stack, .literal ['u', 'l', 'l'] .null⟩
  else if c = 't' then some ⟨stack, .literal ['r', 'u', 'e'] (.bool true)⟩
  else if c = 'f' then some ⟨stack, .literal ['a', 'l', 's', 'e'] (.bool false)⟩
  else (NumeralDraft.start? c).map fun draft => ⟨stack, .number draft⟩

/-- What follows a value: the next item or member, or the end of the container. -/
def stepAfter (stack : List Frame) (value : Tree) (c : Char) : Option Reader :=
  if isBlank c then some ⟨stack, .after value⟩
  else match stack with
    | .array items :: outer =>
      if c = ',' then some ⟨.array (value :: items) :: outer, .value⟩
      else if c = ']' then some ⟨outer, .after (.array (value :: items).reverse)⟩
      else none
    | .object members key :: outer =>
      if c = ',' then some ⟨outer, .nextMember ((key, value) :: members)⟩
      else if c = '}' then some ⟨outer, .after (.object ((key, value) :: members).reverse)⟩
      else none
    | [] => none

/-- End a string at its closing quote. -/
def endText (stack : List Frame) (role : TextRole) (units : List TextUnit) : Reader :=
  match role with
  | .value => ⟨stack, .after (.text units.reverse)⟩
  | .key members => ⟨stack, .colon members units.reverse⟩

/-- Give a string its next character. -/
def stepText (stack : List Frame) (role : TextRole) (units : List TextUnit) (escape : Escape)
    (c : Char) : Option Reader :=
  match escape with
  | .none =>
    if c = '"' then some (endText stack role units)
    else if c = '\\' then some ⟨stack, .text role units .started⟩
    else if c.val < 0x20 then none
    else some ⟨stack, .text role (.character c :: units) .none⟩
  | .started =>
    if c = 'u' then some ⟨stack, .text role units (.hex 0 0)⟩
    else (escaped? c).map fun plain => ⟨stack, .text role (.character plain :: units) .none⟩
  | .hex digits value =>
    (hexDigit? c).map fun digit =>
      let value := 16 * value + digit
      if digits = 3 then ⟨stack, .text role (.code value :: units) .none⟩
      else ⟨stack, .text role units (.hex (digits + 1) value)⟩

/-- Give the reader the next character; `none` means that no JSON text goes on this way. -/
def Reader.step (reader : Reader) (c : Char) : Option Reader :=
  let stack := reader.stack
  match reader.mode with
  | .value => if isBlank c then some reader else beginValue stack c
  | .firstItem =>
    if isBlank c then some reader
    else if c = ']' then
      match stack with
      | _ :: outer => some ⟨outer, .after (.array [])⟩
      | [] => none
    else beginValue stack c
  | .firstMember =>
    if isBlank c then some reader
    else if c = '}' then some ⟨stack, .after (.object [])⟩
    else if c = '"' then some ⟨stack, .text (.key []) [] .none⟩
    else none
  | .nextMember members =>
    if isBlank c then some reader
    else if c = '"' then some ⟨stack, .text (.key members) [] .none⟩
    else none
  | .colon members key =>
    if isBlank c then some reader
    else if c = ':' then some ⟨.object members key :: stack, .value⟩
    else none
  | .after value => stepAfter stack value c
  | .text role units escape => stepText stack role units escape c
  | .number draft =>
    match draft.step c with
    | .more draft => some ⟨stack, .number draft⟩
    | .complete => draft.finish?.bind fun numeral => stepAfter stack (.number numeral) c
    | .refused => none
  | .literal rest value =>
    match rest with
    | [] => stepAfter stack value c
    | [last] => if c = last then some ⟨stack, .after value⟩ else none
    | next :: rest => if c = next then some ⟨stack, .literal rest value⟩ else none

/-- Give the reader a text. -/
def Reader.run (reader : Reader) : List Char → Option Reader
  | [] => some reader
  | c :: rest =>
    match reader.step c with
    | some reader => reader.run rest
    | none => none

/-- The text read, if it is complete. -/
def Reader.finish? (reader : Reader) : Option Tree :=
  match reader.stack, reader.mode with
  | [], .after value => some value
  | [], .number draft => draft.finish?.map .number
  | _, _ => none

/-- The JSON text that a list of characters is. -/
def Tree.ofChars? (chars : List Char) : Option Tree :=
  (Reader.start.run chars).bind Reader.finish?

end FlowCheck.Json
