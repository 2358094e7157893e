import FlowCheck.Yaml.Scalar

/-!
# Writing texts in YAML

A text is written plain where that reads back as the same text, else in single quotes. A text of
several lines is a block. Where a form cannot hold the text, double quotes can.
-/

namespace FlowCheck.Yaml

/-- Whether a character may stand unescaped in a written text. -/
def isPrintable (c : Char) : Bool :=
  let n := c.toNat
  n = 0x0a || (0x20 ≤ n && n ≤ 0x7e) || (0xa0 ≤ n && n ≤ 0xfffd && n ≠ 0xfeff) || 0x10000 ≤ n

/-- Whether a character ends a line in any text, whether it may be written or not. -/
def endsLine (c : Char) : Bool :=
  isBreak c || c = '\r' || c = '\u0085'

/-- Whether what comes next in a text, if anything, separates words. -/
def separates : Option Char → Bool
  | some c => isBlank c || endsLine c || c = '\x00'
  | none => true

/-- Whether a character holds an indicator that a plain scalar cannot begin with. -/
def opensIndicator (c : Char) (next : Option Char) : Bool :=
  if c = '-' || c = '?' || c = ':' then separates next else isIndicator c

/-- Whether a text holds an indicator behind its first character: a colon before a gap or a number
sign after one. -/
def holdsIndicator (previous : Char) : List Char → Bool
  | [] => false
  | c :: rest =>
    (c = ':' && separates rest.head?) || (c = '#' && separates (some previous)) ||
      holdsIndicator c rest

/-- Whether a space stands next to a break, before it or after it. -/
def spaceBeside (first second : Char → Bool) (text : List Char) : Bool :=
  (text.zip text.tail).any fun pair => first pair.1 && second pair.2

/-- What decides in which forms a text may be written. -/
structure TextShape where
  printable : Bool
  /-- A space stands before a break. -/
  spaceBeforeBreak : Bool
  /-- A space stands after a break. -/
  spaceAfterBreak : Bool
  endsInSpace : Bool
  beginsOrEndsInGap : Bool
  breaks : Bool
  indicators : Bool
  deriving Repr, DecidableEq

/-- The shape of a text. -/
def TextShape.of (text : List Char) : TextShape where
  printable := text.all isPrintable
  spaceBeforeBreak := spaceBeside (· = ' ') endsLine text
  spaceAfterBreak := spaceBeside endsLine (· = ' ') text
  endsInSpace := text.getLast? = some ' '
  beginsOrEndsInGap :=
    (text.head?.any fun c => c = ' ' || endsLine c) ||
      text.getLast?.any fun c => c = ' ' || endsLine c
  breaks := text.any endsLine
  indicators :=
    "---".toList.isPrefixOf text || "...".toList.isPrefixOf text ||
      match text with
      | [] => false
      | c :: rest => opensIndicator c rest.head? || holdsIndicator c rest

namespace TextShape

/-- Whether any form but double quotes is possible. -/
def isSimple (shape : TextShape) : Bool :=
  shape.printable && !shape.spaceBeforeBreak

/-- Whether the text may be written plain. -/
def allowsPlain (shape : TextShape) : Bool :=
  shape.isSimple && !shape.beginsOrEndsInGap && !shape.breaks && !shape.indicators

/-- Whether the text may be written in single quotes. -/
def allowsSingle (shape : TextShape) : Bool :=
  shape.isSimple && !shape.spaceAfterBreak

/-- Whether the text may be written as a block. -/
def allowsBlock (shape : TextShape) : Bool :=
  shape.isSimple && !shape.endsInSpace

end TextShape

/-- The forms of a written text. -/
inductive TextForm where
  | plain
  | single
  | double
  | block
  deriving Repr, DecidableEq

/-- Whether a plain scalar reads as this very text. -/
def readsAsText (text : List Char) : Bool :=
  !isPaddedNumber text && match plainValue? text with
    | some (.text _) => true
    | _ => false

/-- The form that a text is written in. -/
def TextForm.of (text : List Char) : TextForm :=
  let shape := TextShape.of text
  if text.contains '\n' then (if shape.allowsBlock then .block else .double)
  else if readsAsText text && shape.allowsPlain then .plain
  else if shape.allowsSingle then .single
  else .double

/-- The depth of the lines of a text that takes several. -/
def lineIndent : List Char := [' ', ' ']

/-- The characters of a text over several lines, each line indented that is not empty. `fresh` says
that the line has just begun. -/
def indentLines (fresh : Bool) : List Char → List Char
  | [] => []
  | c :: rest =>
    if isBreak c then c :: indentLines true rest
    else if fresh then lineIndent ++ c :: indentLines false rest
    else c :: indentLines false rest

/-- A text in single quotes. Lines after the first are indented, the last one even if it is
empty. -/
def writeSingle (text : List Char) : List Char :=
  let doubled := text.flatMap fun c => if c = '\'' then ['\'', '\''] else [c]
  ['\''] ++ indentLines false doubled ++
    (if text.getLast?.any isBreak then lineIndent else []) ++ ['\'']

/-- A hexadecimal digit in upper case. -/
def upperHex (n : Nat) : Char :=
  if n < 10 then Char.ofNat (48 + n) else Char.ofNat (55 + n)

/-- A number in so many hexadecimal digits. -/
def hexDigits (n : Nat) : Nat → List Char
  | 0 => []
  | count + 1 => upperHex (n / Nat.pow 16 count % 16) :: hexDigits n count

/-- The letter that a character has behind a backslash. -/
def escapeLetter? (c : Char) : Option Char :=
  match c with
  | '\x00' => some '0'
  | '\x07' => some 'a'
  | '\x08' => some 'b'
  | '\t' => some 't'
  | '\n' => some 'n'
  | '\x0b' => some 'v'
  | '\x0c' => some 'f'
  | '\r' => some 'r'
  | '\x1b' => some 'e'
  | '"' => some '"'
  | '\\' => some '\\'
  | '\u0085' => some 'N'
  | '\u2028' => some 'L'
  | '\u2029' => some 'P'
  | _ => none

/-- A character in double quotes. -/
def writeEscaped (c : Char) : List Char :=
  match escapeLetter? c with
  | some letter => ['\\', letter]
  | none =>
    if isPrintable c then [c]
    else if c.toNat ≤ 0xff then '\\' :: 'x' :: hexDigits c.toNat 2
    else if c.toNat ≤ 0xffff then '\\' :: 'u' :: hexDigits c.toNat 4
    else '\\' :: 'U' :: hexDigits c.toNat 8

/-- A text in double quotes. -/
def writeDouble (text : List Char) : List Char :=
  ['"'] ++ text.flatMap writeEscaped ++ ['"']

/-- The indicator of what happens to the breaks at the end of a text. -/
def chompingSign (text : List Char) : List Char :=
  match text.reverse with
  | [] => ['-']
  | last :: before =>
    if !endsLine last then ['-']
    else match before with
      | [] => ['+']
      | c :: _ => if endsLine c then ['+'] else []

/-- A text as a block, up to the break after it. The depth is told where the first line would hide
it. -/
def writeBlock (text : List Char) : List Char :=
  let depth := if text.head?.any fun c => c = ' ' || endsLine c then ['2'] else []
  ['|'] ++ depth ++ chompingSign text ++ ['\n'] ++ indentLines true text ++
    (if text.getLast?.any endsLine then [] else ['\n'])

/-- A text as the value of a key or as an item, with the break after it. -/
def writeText (text : List Char) : List Char :=
  match TextForm.of text with
  | .plain => text ++ ['\n']
  | .single => writeSingle text ++ ['\n']
  | .double => writeDouble text ++ ['\n']
  | .block => writeBlock text

end FlowCheck.Yaml
