import FlowCheck.Shell.Token

/-!
# From tokens to commands

Commands are read from the tokens of a script by recursive descent, a line at a time: what a line
does can change how the next one is read. A list of commands inside of a command is read by the same
function at a smaller depth.
-/

namespace FlowCheck.Shell

/-- How a list of commands comes to its end. -/
inductive ListKind where
  /-- With its line. -/
  | line
  /-- Before a word or sign that closes it; there has to be a command in it. -/
  | closed
  /-- The same, but it may be empty. -/
  | optional
  deriving Repr, DecidableEq

/-- What is to be read: a list of commands, or a single command. -/
inductive Goal where
  | list (kind : ListKind)
  | command
  deriving Repr, DecidableEq

/-- How a token is to be looked at. -/
structure Outlook where
  /-- Whether ends of lines are passed over. -/
  lines : Bool := false
  /-- Whether words with a meaning of their own are told apart. -/
  keywords : Bool := false
  /-- Whether aliases are replaced. -/
  aliases : Bool := false

/-- A place where a command may begin. -/
def Outlook.beginning : Outlook where
  keywords := true
  aliases := true

/-- The same, at which lines may end before. -/
def Outlook.fresh : Outlook where
  lines := true
  keywords := true
  aliases := true

/-- The commands that a shell treats in a way of their own. -/
def specialNames : List String :=
  [".", ":", "break", "continue", "eval", "exec", "exit", "export", "readonly", "return", "set",
    "shift", "times", "trap", "unset"]

section

variable (inner : Goal → Parse Command) (fuel : Nat)

/-- Read commands in a word. -/
def innerList : Parse Command :=
  inner (.list .optional)

/-- The token that was held back, or the next one. -/
def takeToken : Parse Token := do
  match (← get).held with
  | some token =>
    modify fun source => { source with held := none }
    return token
  | none => readToken (innerList inner) fuel

/-- Hold a token back. -/
def hold (token : Token) : Parse Unit :=
  modify fun source => { source with held := some token }

/-- The next token that is not the end of a line. -/
def takeAcross : Nat → Token → Parse Token
  | steps + 1, .sign .newline => do
    readDocuments (innerList inner) fuel
    takeAcross steps (← takeToken inner fuel)
  | _, token => return token

/-- Take a token, as an outlook tells. The number bounds how many aliases and ends of lines are
passed over. -/
def takeWith (outlook : Outlook) : Nat → Parse Token
  | 0 => refuse "end of file unexpected"
  | steps + 1 => do
    let token ← takeToken inner fuel
    let token ← if outlook.lines then takeAcross inner fuel fuel token else pure token
    match token with
    | .word word =>
      match word.plain? with
      | none => return token
      | some plain =>
        let name := String.ofList plain
        if outlook.keywords && keywords.contains name then return .keyword name
        else
          let source ← get
          set { source with afterBlank := false }
          if outlook.aliases || source.afterBlank then
            match source.aliases.lookup plain with
            | some value =>
              if source.inAliases.any fun entry => entry.1 = plain then return token
              else
                openAlias plain value
                takeWith outlook steps
            | none => return token
          else return token
    | token => return token

/-- Take a token, as an outlook tells. -/
def take (outlook : Outlook) : Parse Token :=
  takeWith inner fuel outlook fuel

/-- Take a keyword and nothing else. -/
def takeKeyword (outlook : Outlook) (name : String) : Parse Unit := do
  match ← take inner fuel outlook with
  | .keyword other => unless other = name do unexpected (.keyword other) (some (.keyword name))
  | token => unexpected token (some (.keyword name))

/-- Read the word behind the sign of a redirection. -/
def readRedirection (stream : Nat) (sign : RedirectSign) : Parse Redirection := do
  match ← takeToken inner fuel with
  | .word word =>
    match sign with
    | .file opening => return .lead stream (.file opening word)
    | .sameAs => return .lead stream (.sameAs word)
    | .document stripped =>
      let source ← get
      let number := source.documents.size
      let pending : PendingDocument := ⟨number, Word.literal word, stripped, Word.isQuoted word⟩
      set { source with
        documents := source.documents.push []
        pending := source.pending ++ [pending] }
      return .lead stream (.document number)
  | token => unexpected token none

/-- Read the redirections behind a command. -/
def readRedirections : Nat → List Redirection → Parse (List Redirection)
  | 0, _ => refuse "end of file unexpected"
  | steps + 1, done => do
    match ← take inner fuel .beginning with
    | .redirect stream sign =>
      readRedirections steps ((← readRedirection inner fuel stream sign) :: done)
    | token =>
      hold token
      return done.reverse

/-- What a simple command has so far, everything last first. -/
structure SimpleDraft where
  assignments : List (Bytes × Word) := []
  words : List Word := []
  redirections : List Redirection := []

/-- The simple command of a draft. -/
def SimpleDraft.command (draft : SimpleDraft) (line : Nat) : Command :=
  .simple line draft.assignments.reverse draft.words.reverse draft.redirections.reverse

/-- Read the definition of a function behind its name and a parenthesis. -/
def readFunction (word : Word) : Parse Command := do
  match ← takeToken inner fuel with
  | .sign .closeParenthesis =>
    let name := word.literal
    if !isName name || word.isQuoted || specialNames.contains (String.ofList name) then
      refuse "Bad function name"
    let line := (← get).line
    let token ← take inner fuel .fresh
    hold token
    return .define line name (← inner .command)
  | token => unexpected token (some (.sign .closeParenthesis))

/-- Read a simple command, or the definition of a function. -/
def readSimple (line : Nat) : Nat → SimpleDraft → Parse Command
  | 0, _ => refuse "end of file unexpected"
  | steps + 1, draft => do
    match ← take inner fuel { aliases := draft.words.isEmpty } with
    | .word word =>
      match if draft.words.isEmpty then word.assignment? else none with
      | some assignment =>
        readSimple line steps { draft with assignments := assignment :: draft.assignments }
      | none => readSimple line steps { draft with words := word :: draft.words }
    | .redirect stream sign =>
      let redirection ← readRedirection inner fuel stream sign
      readSimple line steps { draft with redirections := redirection :: draft.redirections }
    | .sign .openParenthesis =>
      match draft with
      | ⟨[], [word], []⟩ => readFunction inner fuel word
      | _ =>
        hold (.sign .openParenthesis)
        return draft.command line
    | token =>
      hold token
      return draft.command line

/-- Read what may stand behind a test: another test, what is done else, or the end. -/
def readBranch : Nat → Parse Command
  | 0 => refuse "end of file unexpected"
  | steps + 1 => do
    match ← take inner fuel .beginning with
    | .keyword "elif" =>
      let test ← inner (.list .closed)
      takeKeyword inner fuel .beginning "then"
      let yes ← inner (.list .closed)
      return .conditional test yes (← readBranch steps)
    | .keyword "else" =>
      let no ← inner (.list .closed)
      takeKeyword inner fuel .beginning "fi"
      return no
    | .keyword "fi" => return .nothing
    | token => unexpected token (some (.keyword "fi"))

/-- Read the words of a loop over words, up to the end of the line. -/
def readItems : Nat → List Word → Parse (List Word)
  | 0, _ => refuse "end of file unexpected"
  | steps + 1, done => do
    match ← take inner fuel {} with
    | .word word => readItems steps (word :: done)
    | .sign .newline =>
      readDocuments (innerList inner) fuel
      return done.reverse
    | .sign .semicolon => return done.reverse
    | token => unexpected token none

/-- Read a loop over words, behind its first word. -/
def readFor : Parse Command := do
  let line := (← get).line
  match ← take inner fuel {} with
  | .word word =>
    let name := word.literal
    if !isName name || word.plain?.isNone then refuse "Bad for loop variable"
    let words ← match ← take inner fuel .fresh with
      | .keyword "in" => readItems inner fuel fuel []
      | .sign .semicolon => pure [[.parameter ['@'] .asIs true]]
      | token => do
        hold token
        pure [[.parameter ['@'] .asIs true]]
    takeKeyword inner fuel .fresh "do"
    let body ← inner (.list .closed)
    takeKeyword inner fuel .beginning "done"
    return .forEach line name words body
  | _ => refuse "Bad for loop variable"

/-- Read the patterns of a branch, up to the parenthesis behind them. -/
def readPatterns : Nat → Token → List Word → Parse (List Word)
  | 0, _, _ => refuse "end of file unexpected"
  | steps + 1, token, done => do
    let word ← match token with
      | .word word => pure word
      | .keyword name => pure [.content name.toList false]
      | token => unexpected token (some (.sign .closeParenthesis))
    match ← take inner fuel {} with
    | .sign .bar => readPatterns steps (← take inner fuel {}) (word :: done)
    | .sign .closeParenthesis => return (word :: done).reverse
    | token => unexpected token (some (.sign .closeParenthesis))

/-- Read the branches of a choice up to its last word. -/
def readBranches : Nat → List (List Word × Command) → Parse (List (List Word × Command))
  | 0, _ => refuse "end of file unexpected"
  | steps + 1, done => do
    match ← take inner fuel { lines := true, keywords := true } with
    | .keyword "esac" => return done.reverse
    | token =>
      let first ← match token with
        | .sign .openParenthesis => take inner fuel {}
        | token => pure token
      let patterns ← readPatterns inner fuel fuel first []
      let body ← inner (.list .optional)
      let branches := (patterns, body) :: done
      match ← take inner fuel { lines := true, keywords := true } with
      | .keyword "esac" => return branches.reverse
      | .sign .doubleSemicolon => readBranches steps branches
      | token => unexpected token (some (.sign .doubleSemicolon))

/-- Read a choice, behind its first word. -/
def readCase : Parse Command := do
  let line := (← get).line
  match ← take inner fuel {} with
  | .word word =>
    takeKeyword inner fuel .fresh "in"
    return .choice line word (← readBranches inner fuel fuel [])
  | token => unexpected token (some (.word []))

/-- Read a compound command behind its first token, up to its last one. -/
def readCompound? (first : Token) : Option (Parse Command) :=
  let loop (untilDone : Bool) : Parse Command := do
    let test ← inner (.list .closed)
    takeKeyword inner fuel .beginning "do"
    let body ← inner (.list .closed)
    takeKeyword inner fuel .beginning "done"
    return .loop untilDone test body
  match first with
  | .keyword "if" => some do
    let test ← inner (.list .closed)
    takeKeyword inner fuel .beginning "then"
    let yes ← inner (.list .closed)
    return .conditional test yes (← readBranch inner fuel fuel)
  | .keyword "while" => some (loop false)
  | .keyword "until" => some (loop true)
  | .keyword "for" => some (readFor inner fuel)
  | .keyword "case" => some (readCase inner fuel)
  | .keyword "\x7b" => some do
    let body ← inner (.list .closed)
    takeKeyword inner fuel .beginning "\x7d"
    return body
  | .sign .openParenthesis => some do
    let body ← inner (.list .closed)
    match ← take inner fuel .beginning with
    | .sign .closeParenthesis => return .apart body
    | token => unexpected token (some (.sign .closeParenthesis))
  | _ => none

/-- Read one command. -/
def readCommand (outlook : Outlook) : Parse Command := do
  let line := (← get).line
  let token ← take inner fuel outlook
  match readCompound? inner fuel token with
  | some compound =>
    let command ← compound
    let redirections ← readRedirections inner fuel fuel []
    return if redirections.isEmpty then command else .redirected line command redirections
  | none =>
    match token with
    | .word _ | .redirect .. =>
      hold token
      readSimple inner fuel line fuel {}
    | token => unexpected token none

/-- Read the commands of a pipeline behind the first one. -/
def readStages : Nat → List Command → Parse Command
  | 0, _ => refuse "end of file unexpected"
  | steps + 1, done => do
    match ← take inner fuel {} with
    | .sign .bar => readStages steps ((← readCommand inner fuel .fresh) :: done)
    | token =>
      hold token
      match done with
      | [command] => return command
      | commands => return .pipeline commands.reverse

/-- Read commands of which each reads what the one before writes. -/
def readPipeline (outlook : Outlook) : Parse Command := do
  match ← take inner fuel outlook with
  | .keyword "!" =>
    return .negation (← readStages inner fuel fuel [← readCommand inner fuel .beginning])
  | token =>
    hold token
    readStages inner fuel fuel [← readCommand inner fuel outlook]

/-- Read commands of which each runs or not according to the one before. -/
def readAndOr : Nat → Command → Parse Command
  | 0, _ => refuse "end of file unexpected"
  | steps + 1, first => do
    match ← take inner fuel {} with
    | .sign .doubleAmpersand => readAndOr steps (.both first (← readPipeline inner fuel .fresh))
    | .sign .doubleBar => readAndOr steps (.either first (← readPipeline inner fuel .fresh))
    | token =>
      hold token
      return first

/-- Whether a token closes a list of commands. -/
def Token.closesList : Token → Bool
  | .sign .finish | .sign .closeParenthesis | .sign .doubleSemicolon => true
  | .keyword name =>
    ["do", "done", "elif", "else", "esac", "fi", "then", "\x7d"].contains name
  | _ => false

/-- One command after another, unless the first is nothing. -/
def Command.andThen (first second : Command) : Command :=
  match first with
  | .nothing => second
  | first => .sequence first second

/-- Read a list of commands. -/
def readList (kind : ListKind) : Nat → Bool → Command → Parse Command
  | 0, _, _ => refuse "end of file unexpected"
  | steps + 1, begun, done => do
    let outlook : Outlook := if kind = .line then .beginning else .fresh
    let token ← take inner fuel outlook
    match token with
    | .sign .newline =>
      readDocuments (innerList inner) fuel
      return done
    | .sign .finish =>
      readDocuments (innerList inner) fuel
      hold token
      return done
    | token =>
      hold token
      if (begun || kind = .optional) && kind ≠ .line && token.closesList then return done
      let command ← readAndOr inner fuel fuel (← readPipeline inner fuel outlook)
      match ← take inner fuel {} with
      | .sign .ampersand =>
        readList kind steps true (done.andThen (.background command))
      | .sign .semicolon => readList kind steps true (done.andThen command)
      | .sign .newline =>
        hold (.sign .newline)
        readList kind steps true (done.andThen command)
      | .sign .finish =>
        readDocuments (innerList inner) fuel
        hold (.sign .finish)
        return done.andThen command
      | token =>
        if kind = .line then unexpected token none
        hold token
        return done.andThen command

end

/-- Read a list of commands or a command, nested so deep. -/
def readGoal (fuel : Nat) : Nat → Goal → Parse Command
  | 0, _ => refuse "end of file unexpected"
  | depth + 1, .list kind => readList (readGoal fuel depth) fuel kind fuel false .nothing
  | depth + 1, .command => readCommand (readGoal fuel depth) fuel .fresh

/-- What a line of a script is. -/
inductive ScriptLine where
  | command (command : Command) (source : Source)
  | finished
  | broken (cause : SyntaxError) (source : Source)

/-- Read the next line of a script. -/
def readScriptLine (source : Source) : ScriptLine :=
  let fuel := 2 * source.text.length + 64 +
    (source.aliases.foldl (fun size entry => size + entry.2.length) 0)
  let source := { source with held := none, inAliases := [], pending := [], afterBlank := false }
  if source.text.isEmpty then .finished
  else
    match (readGoal fuel fuel (.list .line)).run source with
    | .ok command source => .command command source
    | .error cause source => .broken cause source

end FlowCheck.Shell
