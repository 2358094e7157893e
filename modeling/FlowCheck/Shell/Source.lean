import FlowCheck.Shell.Script

/-!
# Sources of scripts

What is left of a script while it is read, and what has been put aside: a token that was looked at
too early, the aliases whose texts are being read, and the documents that begin after the line.
-/

namespace FlowCheck.Shell

/-- The signs that separate and join commands. -/
inductive Sign where
  | newline
  | finish
  | semicolon
  | doubleSemicolon
  | ampersand
  | doubleAmpersand
  | bar
  | doubleBar
  | openParenthesis
  | closeParenthesis
  deriving Repr, DecidableEq

/-- The words that have a meaning of their own where a command may begin. -/
def keywords : List String :=
  ["!", "case", "do", "done", "elif", "else", "esac", "fi", "for", "if", "in", "then", "until",
    "while", "\x7b", "\x7d"]

/-- What a redirection does before its word is known. -/
inductive RedirectSign where
  | file (opening : Opening)
  | sameAs
  | document (stripped : Bool)
  deriving Repr, DecidableEq

/-- A token. -/
inductive Token where
  | word (word : Word)
  | keyword (name : String)
  | sign (sign : Sign)
  /-- A redirection of a stream. -/
  | redirect (stream : Nat) (sign : RedirectSign)

/-- How an error calls a token. -/
def Token.name : Token → String
  | .word _ => "word"
  | .keyword name => s!"\"{name}\""
  | .redirect .. => "redirection"
  | .sign joint =>
    match joint with
    | .newline => "newline"
    | .finish => "end of file"
    | .semicolon => "\";\""
    | .doubleSemicolon => "\";;\""
    | .ampersand => "\"&\""
    | .doubleAmpersand => "\"&&\""
    | .bar => "\"|\""
    | .doubleBar => "\"||\""
    | .openParenthesis => "\"(\""
    | .closeParenthesis => "\")\""

/-- A document that a line refers to, by its number: the line that ends it, whether tabs in front of
lines are taken away, and whether its text is taken as it is. -/
structure PendingDocument where
  number : Nat
  ending : Bytes
  stripped : Bool
  verbatim : Bool

/-- What is left of a script. -/
structure Source where
  text : Bytes
  line : Nat := 1
  aliases : List (Bytes × Bytes) := []
  /-- Aliases whose texts are being read, and how much is left of the script behind each. -/
  inAliases : List (Bytes × Nat) := []
  /-- Whether the text of an alias has just ended in a blank, so that another may follow. -/
  afterBlank : Bool := false
  /-- A token that was looked at and not taken. -/
  held : Option Token := none
  /-- The documents of this and all earlier scripts. -/
  documents : Array Word := #[]
  pending : List PendingDocument := []

/-- Why a script cannot be read. -/
structure SyntaxError where
  line : Nat
  message : String

/-- A step of reading a script. -/
abbrev Parse := EStateM SyntaxError Source

/-- Refuse a script. -/
def refuse {α : Type} (message : String) : Parse α := do
  throw ⟨(← get).line, s!"Syntax error: {message}"⟩

/-- Refuse a token, and say which one was wanted if there is but one. -/
def unexpected {α : Type} (token : Token) (wanted : Option Token) : Parse α :=
  match wanted with
  | some wanted => refuse s!"{token.name} unexpected (expecting {wanted.name})"
  | none => refuse s!"{token.name} unexpected"

/-- Go on with a rest of the text. -/
def goOn (rest : Bytes) : Parse Unit :=
  modify fun source => { source with text := rest }

/-- Go on with a rest of the text on the next line. -/
def nextLine (rest : Bytes) : Parse Unit :=
  modify fun source => { source with text := rest, line := source.line + 1 }

/-- Put the text of an alias in front of the script. -/
def openAlias (name value : Bytes) : Parse Unit :=
  modify fun source =>
    { source with
      text := value ++ source.text
      inAliases := (name, source.text.length) :: source.inAliases }

/-- Forget the aliases whose texts have been read to their ends. -/
def leaveAliases : Parse Unit :=
  modify fun source =>
    match source.inAliases with
    | [] => source
    | aliases =>
      let size := source.text.length
      let left := aliases.filter fun entry => size > entry.2
      let ended := aliases.filter fun entry => size ≤ entry.2
      let endsInBlank := ended.any fun entry =>
        ((source.aliases.lookup entry.1).getD []).getLast?.any fun c => c = ' ' || c = '\t'
      { source with inAliases := left, afterBlank := source.afterBlank || endsInBlank }

end FlowCheck.Shell
