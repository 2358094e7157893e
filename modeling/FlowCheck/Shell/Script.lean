/-!
# Scripts

The form of a shell script once it is read. A script works on bytes: a byte is held as the character
with its number, so that a script's own signs can be written as characters.
-/

namespace FlowCheck.Shell

/-- Bytes, each held as the character with its number. -/
abbrev Bytes := List Char

/-- The bytes of a text. -/
def bytes (text : String) : Bytes :=
  text.toUTF8.toList.map fun byte => Char.ofNat byte.toNat

/-- The numbers of bytes. -/
def numbers (content : Bytes) : List UInt8 :=
  content.map fun c => UInt8.ofNat c.toNat

/-- The text that bytes are, if they are one. -/
def textOf (content : Bytes) : String :=
  (String.fromUTF8? ⟨(numbers content).toArray⟩).getD ""

/-- The digits of a number. -/
def digits (n : Nat) : Bytes :=
  Nat.toDigits 10 n

/-- How a file is opened that a stream is led to. -/
inductive Opening where
  | reading
  | readingAndWriting
  /-- An existing file is emptied, unless `clobber` is needed for that and missing. -/
  | writing (clobber : Bool)
  | appending
  deriving Repr, DecidableEq

mutual

/-- What a parameter's value goes through before it is used. -/
inductive Change where
  | asIs
  /-- The length of the value. -/
  | length
  /-- A word that replaces a value that is missing or, if `orEmpty`, empty; it may be assigned. -/
  | default (orEmpty assign : Bool) (word : List Part)
  /-- A word that replaces a value that is not missing. -/
  | alternative (orEmpty : Bool) (word : List Part)
  /-- A value that is missing ends the shell with a word as the reason. -/
  | demand (orEmpty : Bool) (word : List Part)
  /-- Cut the shortest or longest match of a pattern from the front or the back. -/
  | cut (front longest : Bool) (pattern : List Part)
  /-- What stands between the braces means nothing. -/
  | unknown

/-- A part of a word. Only parts that are not quoted are split into fields. -/
inductive Part where
  | content (content : Bytes) (quoted : Bool)
  | parameter (name : Bytes) (change : Change) (quoted : Bool)
  /-- What commands write. -/
  | output (script : Command) (quoted : Bool)
  /-- The value of an expression. -/
  | sum (expression : List Part) (quoted : Bool)

/-- Where a stream is led. -/
inductive Destination where
  | file (opening : Opening) (path : List Part)
  /-- The same as another stream, or nowhere. -/
  | sameAs (stream : List Part)
  /-- A text that stands in the script, by its number. -/
  | document (number : Nat)

/-- A stream by its number, and where it is led. -/
inductive Redirection where
  | lead (stream : Nat) (destination : Destination)

/-- A command. Some commands know the line on which they stand. -/
inductive Command where
  | nothing
  | simple (line : Nat) (assignments : List (Bytes × List Part)) (words : List (List Part))
      (redirections : List Redirection)
  | sequence (first second : Command)
  | both (first second : Command)
  | either (first second : Command)
  | negation (command : Command)
  | pipeline (commands : List Command)
  | background (command : Command)
  /-- A command in a shell of its own. -/
  | apart (command : Command)
  | redirected (line : Nat) (command : Command) (redirections : List Redirection)
  | conditional (test yes no : Command)
  /-- Repeated as long as the test succeeds or, if `untilDone`, fails. -/
  | loop (untilDone : Bool) (test body : Command)
  | forEach (line : Nat) (name : Bytes) (words : List (List Part)) (body : Command)
  | choice (line : Nat) (word : List Part) (branches : List (List (List Part) × Command))
  | define (line : Nat) (name : Bytes) (body : Command)

end

/-- A word: parts side by side. -/
abbrev Word := List Part

namespace Word

/-- The text of a word that is all bare. -/
def plain? : Word → Option Bytes
  | [.content content false] => some content
  | _ => none

/-- Whether anything in a word is quoted. -/
def isQuoted (word : Word) : Bool :=
  word.any fun
    | .content _ quoted | .parameter _ _ quoted | .output _ quoted | .sum _ quoted => quoted

/-- The literal text of a word, all quoting removed. -/
def literal (word : Word) : Bytes :=
  word.flatMap fun
    | .content content _ => content
    | _ => []

/-- Parts, last first, with one more piece of content. Pieces that are quoted alike are one. -/
def pushContent (content : Bytes) (quoted : Bool) : Word → Word
  | .content before q :: rest =>
    if q = quoted && !before.isEmpty then .content (before ++ content) q :: rest
    else .content content quoted :: .content before q :: rest
  | word => .content content quoted :: word

end Word

/-- Whether a byte may begin a name. -/
def isNameStart (c : Char) : Bool :=
  c.isAlpha || c = '_'

/-- Whether a byte may stand in a name. -/
def isNameByte (c : Char) : Bool :=
  c.isAlphanum || c = '_'

/-- Whether bytes are a name. -/
def isName (name : Bytes) : Bool :=
  (name.head?.any isNameStart) && name.all isNameByte

/-- The name that is assigned to at the beginning of a text, and the text after the sign. -/
def assignment? (text : Bytes) : Option (Bytes × Bytes) :=
  let name := text.takeWhile isNameByte
  match text.drop name.length with
  | '=' :: value => if isName name then some (name, value) else none
  | _ => none

/-- The name that a word assigns to, and the word that it is assigned. -/
def Word.assignment? : Word → Option (Bytes × Word)
  | .content content false :: rest => (Shell.assignment? content).map fun (name, value) =>
    (name, if value.isEmpty then rest else .content value false :: rest)
  | _ => none

end FlowCheck.Shell
