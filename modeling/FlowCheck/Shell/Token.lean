import FlowCheck.Shell.Source

/-!
# Tokens of scripts

Words, signs and redirections are read from the text of a script. A word may hold whole commands;
how they are read is left open here and told by a parameter.
-/

namespace FlowCheck.Shell

/-- What a part of a word stands in, and so what brings it to its end. -/
inductive Surrounding where
  /-- A word of a command ends before a separator. -/
  | bare
  /-- A text in double quotes ends with a quote. -/
  | double
  /-- A document ends with its text. -/
  | document
  /-- The word in a parameter's braces ends with a brace. -/
  | braces (quoted : Bool)
  /-- An expression ends with two parentheses; so many parentheses are open in it. -/
  | sum (depth : Nat)
  deriving Repr, DecidableEq

/-- Whether what stands there is quoted. -/
def Surrounding.isQuoted : Surrounding → Bool
  | .bare => false
  | .braces quoted => quoted
  | _ => true

/-- Whether a byte ends a bare word. -/
def isSeparator (c : Char) : Bool :=
  [' ', '\t', '\n', ';', '&', '|', '<', '>', '(', ')'].contains c

/-- Whether a byte may have a meaning of its own somewhere. -/
def isMarked (c : Char) : Bool :=
  isSeparator c || ['\\', '$', '\x60', '\'', '"', '\x7d'].contains c

/-- Whether a byte is the name of a parameter of its own. -/
def isSpecialName (c : Char) : Bool :=
  ['@', '*', '#', '?', '$', '!', '-'].contains c || c.isDigit

/-- The script between two backquotes, with the backslashes of the quoting removed. -/
def backquoted (quoted : Bool) : Bytes → Bytes → Option (Bytes × Bytes)
  | _, [] => none
  | done, '\x60' :: rest => some (done.reverse, rest)
  | done, '\\' :: '\n' :: rest => backquoted quoted done rest
  | done, '\\' :: c :: rest =>
    if c = '\x60' || c = '\\' || c = '$' || (quoted && c = '"') then
      backquoted quoted (c :: done) rest
    else backquoted quoted (c :: '\\' :: done) rest
  | done, c :: rest => backquoted quoted (c :: done) rest

/-- The name of a parameter at the beginning of a text, and the text after it. In braces a number
may have several digits. -/
def leadingName (braces : Bool) (text : Bytes) : Bytes × Bytes :=
  match text with
  | [] => ([], [])
  | c :: rest =>
    if c.isDigit then
      if braces then (text.takeWhile Char.isDigit, text.dropWhile Char.isDigit) else ([c], rest)
    else if isSpecialName c then ([c], rest)
    else if isNameStart c then (text.takeWhile isNameByte, text.dropWhile isNameByte)
    else ([], text)

/-- The name whose length is asked for between braces, and the text after them. -/
def lengthOf? : Bytes → Option (Bytes × Bytes)
  | '#' :: rest =>
    let (name, after) := leadingName true rest
    match name, after with
    | [], _ => none
    | _, '\x7d' :: after => some (name, after)
    | _, _ => none
  | _ => none

/-- What a change does with its word. -/
inductive ChangeSign where
  | default (orEmpty assign : Bool)
  | alternative (orEmpty : Bool)
  | demand (orEmpty : Bool)
  | cut (front longest : Bool)

/-- The sign of a change at the beginning of a text, and the text after it. -/
def changeSign? : Bytes → Option (ChangeSign × Bytes)
  | ':' :: '-' :: rest => some (.default true false, rest)
  | ':' :: '=' :: rest => some (.default true true, rest)
  | ':' :: '+' :: rest => some (.alternative true, rest)
  | ':' :: '?' :: rest => some (.demand true, rest)
  | '-' :: rest => some (.default false false, rest)
  | '=' :: rest => some (.default false true, rest)
  | '+' :: rest => some (.alternative false, rest)
  | '?' :: rest => some (.demand false, rest)
  | '#' :: '#' :: rest => some (.cut true true, rest)
  | '#' :: rest => some (.cut true false, rest)
  | '%' :: '%' :: rest => some (.cut false true, rest)
  | '%' :: rest => some (.cut false false, rest)
  | _ => none

/-- Whether the word of a change is read without regard to quotes around the braces. -/
def ChangeSign.standsAlone : ChangeSign → Bool
  | .cut .. => true
  | _ => false

/-- The change that a sign and a word make. -/
def ChangeSign.change (sign : ChangeSign) (word : Word) : Change :=
  match sign with
  | .default orEmpty assign => .default orEmpty assign word
  | .alternative orEmpty => .alternative orEmpty word
  | .demand orEmpty => .demand orEmpty word
  | .cut front longest => .cut front longest word

/-- A word in double quotes. All the arguments by themselves may be no field at all; anything else
in quotes is at least one. -/
def quotedWord (inner : Word) : Word :=
  match inner with
  | [.parameter ['@'] .asIs _] => inner
  | inner => .content [] true :: inner

/-- Read commands that stand in a word, up to the end of a text. -/
def readInner (commands : Parse Command) (text : Bytes) : Parse Command := do
  let outer ← get
  set { outer with text, held := none, inAliases := [], pending := [] }
  let command ← commands
  modify fun source =>
    { outer with documents := source.documents }
  return command

/-- Read the commands in a parenthesis behind a dollar sign. -/
def readOutput (commands : Parse Command) (text : Bytes) : Parse Command := do
  let outer := (← get).pending
  modify fun source => { source with text, held := none, pending := [] }
  let command ← commands
  match (← get).held with
  | some (.sign .closeParenthesis) =>
    modify fun source => { source with held := none, pending := outer }
    return command
  | some token => unexpected token (some (.sign .closeParenthesis))
  | none => refuse "end of file unexpected"

/-- Read the parts of a word up to its end. Those that were read already come last first. -/
def readParts (commands : Parse Command) : Nat → Surrounding → Word → Parse Word
  | 0, _, _ => refuse "end of file unexpected"
  | fuel + 1, surrounding, done => do
    let quoted := surrounding.isQuoted
    let source ← get
    let more (content : Bytes) (quoted : Bool) (rest : Bytes) : Parse Word := do
      goOn rest
      readParts commands fuel surrounding (Word.pushContent content quoted done)
    let part (part : Part) : Parse Word :=
      readParts commands fuel surrounding (part :: done)
    match source.text with
    | [] =>
      match surrounding with
      | .bare | .document => return done.reverse
      | .double => refuse "Unterminated quoted string"
      | .braces _ => refuse "Missing '\x7d'"
      | .sum _ => refuse "Missing '))'"
    | '\\' :: '\n' :: rest =>
      nextLine rest
      readParts commands fuel surrounding done
    | '\\' :: [] => more ['\\'] true []
    | '\\' :: c :: rest =>
      let inBraces := match surrounding with
        | .braces _ => true
        | _ => false
      if !quoted || c = '$' || c = '\x60' || c = '\\' || (c = '"' && surrounding ≠ .document) ||
          (c = '\x7d' && inBraces) then
        more [c] true rest
      else more ['\\', c] true rest
    | '$' :: '(' :: '(' :: rest =>
      goOn rest
      let inner ← readParts commands fuel (.sum 0) []
      part (.sum inner quoted)
    | '$' :: '(' :: rest =>
      let command ← readOutput commands rest
      part (.output command quoted)
    | '$' :: '\x7b' :: rest =>
      match lengthOf? rest with
      | some (name, after) =>
        goOn after
        part (.parameter name .length quoted)
      | none =>
        let (name, after) := leadingName true rest
        match name, after with
        | _ :: _, '\x7d' :: after =>
          goOn after
          part (.parameter name .asIs quoted)
        | _, _ =>
          match if name.isEmpty then none else changeSign? after with
          | some (sign, after) =>
            goOn after
            let inner ← readParts commands fuel (.braces (quoted && !sign.standsAlone)) []
            part (.parameter name (sign.change inner) quoted)
          | none =>
            goOn after
            let _ ← readParts commands fuel (.braces quoted) []
            part (.parameter name .unknown quoted)
    | '$' :: rest =>
      match leadingName false rest with
      | ([], _) => more ['$'] quoted rest
      | (name, after) =>
        goOn after
        part (.parameter name .asIs quoted)
    | '\x60' :: rest =>
      match backquoted quoted [] rest with
      | none => refuse "EOF in backquote substitution"
      | some (script, after) =>
        let command ← readInner commands script
        modify fun source =>
          { source with text := after, line := source.line + script.count '\n' }
        part (.output command quoted)
    | '\'' :: rest =>
      if quoted then more ['\''] true rest
      else
        let content := rest.takeWhile (· ≠ '\'')
        match rest.drop content.length with
        | [] => refuse "Unterminated quoted string"
        | _ :: after =>
          modify fun source =>
            { source with text := after, line := source.line + content.count '\n' }
          readParts commands fuel surrounding (.content content true :: done)
    | '"' :: rest =>
      match surrounding with
      | .double =>
        goOn rest
        return done.reverse
      | .document => more ['"'] true rest
      | .sum _ =>
        goOn rest
        readParts commands fuel surrounding done
      | .bare | .braces _ =>
        goOn rest
        let inner ← readParts commands fuel .double []
        readParts commands fuel surrounding ((quotedWord inner).reverseAux done)
    | c :: rest =>
      match surrounding with
      | .bare =>
        if isSeparator c then return done.reverse
        else
          let run := rest.takeWhile fun c => !isMarked c
          more (c :: run) false (rest.drop run.length)
      | .braces _ =>
        if c = '\x7d' then
          goOn rest
          return done.reverse
        else
          if c = '\n' then nextLine rest
          more [c] quoted rest
      | .sum depth =>
        if c = ')' && depth = 0 && rest.head? = some ')' then
          goOn (rest.drop 1)
          return done.reverse
        else
          if c = '\n' then nextLine rest
          goOn rest
          let deeper := if c = '(' then depth + 1 else if c = ')' then depth - 1 else depth
          readParts commands fuel (.sum deeper) (Word.pushContent [c] true done)
      | .double | .document =>
        if c = '\n' then nextLine rest
        let run := rest.takeWhile fun c => !isMarked c
        more (c :: run) true (rest.drop run.length)

/-- Read a text in the way of a document. -/
def readDocument (commands : Parse Command) (fuel : Nat) (text : Bytes) : Parse Word := do
  let outer ← get
  set { outer with text, held := none, inAliases := [], pending := [] }
  let word ← readParts commands fuel .document []
  modify fun source => { outer with documents := source.documents }
  return word

/-- The lines of a document up to the one that ends it, the text after that, and how many lines were
passed. -/
def documentLines (pending : PendingDocument) : Nat → Nat → Bytes → Bytes → Bytes × Bytes × Nat
  | 0, count, done, text => (done.reverse, text, count)
  | fuel + 1, count, done, text =>
    if text.isEmpty then (done.reverse, [], count)
    else
      let text := if pending.stripped then text.dropWhile (· = '\t') else text
      let line := text.takeWhile (· ≠ '\n')
      let after := text.drop (line.length + 1)
      if line = pending.ending then (done.reverse, after, count + 1)
      else
        let ended := if line.length < text.length then ['\n'] else []
        let joined := !pending.verbatim && line.getLast? = some '\\' &&
          (line.reverse.takeWhile (· = '\\')).length % 2 = 1
        if joined then
          -- A backslash takes the end of its line away, so the next line cannot end the document.
          let next := after.takeWhile (· ≠ '\n')
          let rest := after.drop (next.length + 1)
          let ended := if next.length < after.length then ['\n'] else []
          documentLines pending fuel (count + 2)
            (ended ++ next.reverseAux ('\n' :: line.reverseAux done)) rest
        else documentLines pending fuel (count + 1) (ended ++ line.reverseAux done) after

/-- Read the documents that begin on this line. -/
def readDocuments (commands : Parse Command) (fuel : Nat) : Parse Unit := do
  let pending := (← get).pending
  modify fun source => { source with pending := [] }
  for document in pending do
    let source ← get
    let (content, after, count) := documentLines document (fuel + 1) 0 [] source.text
    set { source with text := after, line := source.line + count }
    let word ←
      if document.verbatim then pure [Part.content content true]
      else readDocument commands fuel content
    modify fun source =>
      { source with documents := source.documents.setIfInBounds document.number word }

/-- A text without the blanks, comments and joined lines at its front, and how many lines were
joined. -/
def skipSpace : Nat → Bytes → Bytes × Nat
  | lines, ' ' :: rest | lines, '\t' :: rest => skipSpace lines rest
  | lines, '\\' :: '\n' :: rest => skipSpace (lines + 1) rest
  | lines, text => (text, lines)

/-- The sign at the beginning of a text, and the text after it. -/
def leadingSign? : Bytes → Option (Sign × Bytes)
  | [] => some (.finish, [])
  | '\n' :: rest => some (.newline, rest)
  | '&' :: '&' :: rest => some (.doubleAmpersand, rest)
  | '&' :: rest => some (.ampersand, rest)
  | '|' :: '|' :: rest => some (.doubleBar, rest)
  | '|' :: rest => some (.bar, rest)
  | ';' :: ';' :: rest => some (.doubleSemicolon, rest)
  | ';' :: rest => some (.semicolon, rest)
  | '(' :: rest => some (.openParenthesis, rest)
  | ')' :: rest => some (.closeParenthesis, rest)
  | _ => none

/-- The redirection at the beginning of a text without a number in front: the stream that it has by
itself, what it does, and the text after it. -/
def redirectSign? : Bytes → Option (Nat × RedirectSign × Bytes)
  | '<' :: '<' :: '-' :: rest => some (0, .document true, rest)
  | '<' :: '<' :: rest => some (0, .document false, rest)
  | '<' :: '&' :: rest => some (0, .sameAs, rest)
  | '<' :: '>' :: rest => some (0, .file .readingAndWriting, rest)
  | '<' :: rest => some (0, .file .reading, rest)
  | '>' :: '>' :: rest => some (1, .file .appending, rest)
  | '>' :: '&' :: rest => some (1, .sameAs, rest)
  | '>' :: '|' :: rest => some (1, .file (.writing true), rest)
  | '>' :: rest => some (1, .file (.writing false), rest)
  | _ => none

/-- The redirection at the beginning of a text; a digit in front of it says which stream. -/
def leadingRedirect? (text : Bytes) : Option (Nat × RedirectSign × Bytes) :=
  match text with
  | c :: rest =>
    if c.isDigit then
      (redirectSign? rest).map fun (_, sign, rest) => (c.toNat - '0'.toNat, sign, rest)
    else redirectSign? text
  | [] => none

/-- Read the next token. -/
def readToken (commands : Parse Command) (fuel : Nat) : Parse Token := do
  let (text, joined) := skipSpace 0 (← get).text
  let text := if text.head? = some '#' then text.dropWhile (· ≠ '\n') else text
  modify fun source => { source with text, line := source.line + joined }
  leaveAliases
  match leadingRedirect? text, leadingSign? text with
  | some (stream, sign, rest), _ =>
    goOn rest
    return .redirect stream sign
  | none, some (sign, rest) =>
    if sign = .newline then nextLine rest else goOn rest
    return .sign sign
  | none, none =>
    return .word (← readParts commands fuel .bare [])

end FlowCheck.Shell
