import FlowCheck.Shell.Fields
import FlowCheck.Shell.Subshell

/-!
# Expansion

What the words of a script stand for when it runs: parameters give way to their values, commands to
what they write, and expressions to their results. How a command is run is told by a parameter.
-/

namespace FlowCheck.Shell

/-- A home directory by the name of its user. -/
def homeOf? (session : Session) (user : Bytes) : Option Bytes :=
  if user.isEmpty then session.value? (bytes "HOME")
  else if user = bytes "root" then some (bytes "/root")
  else none

/-- A text at whose beginning a tilde stands for a home directory. Whether more of the word follows
the text tells if the name of the user can end with it. -/
def expandTilde (session : Session) (inValue followed : Bool) (text : Bytes) :
    Bytes × Bytes :=
  match text with
  | '~' :: rest =>
    let user := rest.takeWhile fun c => c ≠ '/' && !(inValue && c = ':')
    let after := rest.drop user.length
    if after.isEmpty && followed then ([], text)
    else
      match homeOf? session user with
      | some home => (home, after)
      | none => ([], text)
  | text => ([], text)

/-- A text of a value, with the home directories that tildes behind colons stand for, as pieces. -/
def expandTildes (session : Session) (followed : Bool) : Nat → Bytes → List Piece
  | 0, text => [.content text false false]
  | fuel + 1, text =>
    let (home, after) := expandTilde session true followed text
    let run := after.takeWhile (· ≠ ':')
    let left := after.drop run.length
    let pieces : List Piece := [.content home true false, .content run false false]
    match left with
    | [] => pieces
    | colon :: rest =>
      pieces ++ .content [colon] false false :: expandTildes session followed fuel rest

/-- What a word is expanded for. -/
inductive Purpose where
  /-- The words of a command. -/
  | fields
  /-- The value of a variable. -/
  | value
  /-- Anything else that is one text. -/
  | single
  /-- A text in which only what begins with a dollar sign or a backquote has a meaning. -/
  | document
  deriving Repr, DecidableEq

/-- The pieces of the bare text at the beginning of a word. -/
def expandBeginning (session : Session) (purpose : Purpose) (followed : Bool) (text : Bytes) :
    List Piece :=
  match purpose with
  | .document => [.content text false false]
  | .value => expandTildes session followed (text.length + 1) text
  | .fields | .single =>
    let (home, after) := expandTilde session false followed text
    if home.isEmpty then [.content after false false]
    else [.content home true false, .content after false false]

/-- The byte between arguments that are joined. -/
def joint (session : Session) : Bytes :=
  match session.value? (bytes "IFS") with
  | some separators => separators.take 1
  | none => [' ']

/-- All arguments in one. -/
def joinedArguments (session : Session) : Bytes :=
  (joint session).intercalate session.arguments

/-- The value of a parameter as one text. -/
def parameterText? (session : Session) (name : Bytes) : Option Bytes :=
  if name = ['@'] || name = ['*'] then
    if session.arguments.isEmpty then none else some (joinedArguments session)
  else session.parameter? name

/-- The pieces of the value of a parameter. -/
def parameterPieces (session : Session) (name : Bytes) (quoted : Bool) : List Piece :=
  let apart := (session.arguments.map fun argument =>
    Piece.content argument quoted true).intersperse .boundary
  match name with
  | ['@'] => apart
  | ['*'] =>
    if quoted then [.content (joinedArguments session) true true]
    else apart
  | name => [.content ((session.parameter? name).getD []) quoted true]

section

variable (run : Runner)

/-- The value of an expression. What it assigns is assigned. -/
def evaluateSum (expression : Bytes) : Act Int := do
  let session := (← get).session
  match sumOf session.value? expression with
  | .ok (result, assigned) =>
    for (name, value) in assigned.reverse do setVariable name (toString value).toList
    return result
  | .error (.illegalNumber text) => fault (bytes "Illegal number: " ++ text)
  | .error (.malformed reason) =>
    fault (bytes s!"arithmetic expression: {reason}: \"" ++ expression ++ ['"'])

/-- What a command writes, without the ends of lines behind it. -/
def outputOf (command : Command) : Act Bytes := do
  let supply ← gather run (fun session => { session with guarded := false }) (run command)
  let content ← wholeOf supply
  changeSession fun session => { session with outputStatus := some session.status }
  return (content.reverse.dropWhile (· = '\n')).reverse.filter (· ≠ '\x00')

/-- The pieces of a parameter that is changed. How the words inside are expanded is told. -/
def expandParameter (expand : Purpose → Bool → Word → Act (List Piece)) (name : Bytes)
    (change : Change) (quoted : Bool) : Act (List Piece) := do
  let session := (← get).session
  let value := parameterText? session name
  let isMissing (orEmpty : Bool) : Bool :=
    match value with
    | some value => orEmpty && value.isEmpty
    | none => true
  let demand : Act Unit := do
    let isList := name = ['@'] || name = ['*']
    if value.isNone && session.has 'u' && !isList then
      fault (name ++ bytes ": parameter not set")
  match change with
  | .unknown => fault (bytes "Bad substitution")
  | .asIs =>
    demand
    return parameterPieces session name quoted
  | .length =>
    demand
    return [.content (digits (value.getD []).length) quoted true]
  | .alternative orEmpty word =>
    if isMissing orEmpty then return if quoted then [.content [] true true] else []
    else expand .single (!quoted) word
  | .default orEmpty assign word =>
    if !isMissing orEmpty then return parameterPieces session name quoted
    else if assign then
      if !isName name then fault (name ++ bytes ": bad variable name")
      let text := textOfPieces (joint session) (← expand .value false word)
      setVariable name text
      return [.content text quoted true]
    else expand .single (!quoted) word
  | .demand orEmpty word =>
    if !isMissing orEmpty then return parameterPieces session name quoted
    else
      let text := textOfPieces (joint session) (← expand .single false word)
      let reason := if !word.isEmpty then text
        else bytes (if orEmpty then "parameter not set or null" else "parameter not set")
      fault (name ++ bytes ": " ++ reason)
  | .cut front longest word =>
    demand
    let pattern := markedOfPieces (joint session) (← expand .single false word)
    return [.content (Glob.cut pattern.glob front longest (value.getD [])) quoted true]

/-- The pieces of a part of a word that is not its beginning. How the words inside are expanded is
told. -/
def expandPart (expand : Purpose → Bool → Word → Act (List Piece)) (purpose : Purpose)
    (cuts : Bool) (part : Part) : Act (List Piece) := do
  match part with
  | .content text quoted =>
    if purpose = .value && !quoted then
      let session := (← get).session
      match text.dropWhile (· ≠ ':') with
      | [] => return [.content text false cuts]
      | _ :: after =>
        let before := text.take (text.length - after.length)
        return .content before false cuts :: expandTildes session false (after.length + 1) after
    else return [.content text quoted cuts]
  | .output command quoted => return [.content (← outputOf run command) quoted true]
  | .sum expression quoted =>
    let text := textOfPieces [] (← expand .document false expression)
    return [.content (toString (← evaluateSum text)).toList quoted true]
  | .parameter name change quoted => expandParameter expand name change quoted

/-- The pieces of a word. -/
def expandWord : Nat → Purpose → Bool → Word → Act (List Piece)
  | 0, _, _, _ => throw .stuck
  | fuel + 1, purpose, cuts, word => do
    let expand := expandPart run (expandWord fuel) purpose cuts
    match word with
    | .content text false :: rest =>
      let session := (← get).session
      let pieces := (expandBeginning session purpose (!rest.isEmpty) text).map fun
        | .content text quoted _ => Piece.content text quoted cuts
        | .boundary => .boundary
      return pieces ++ (← rest.mapM expand).flatten
    | word => return (← word.mapM expand).flatten

/-- How deep words may stand in words. -/
def wordDepth : Nat := 1000

/-- The text of a word that is not cut into fields. -/
def expandText (purpose : Purpose) (word : Word) : Act Bytes := do
  let pieces ← expandWord run wordDepth purpose false word
  return textOfPieces (joint (← get).session) pieces

/-- The fields of a word. -/
def expandFields (word : Word) : Act (List Bytes) := do
  let pieces ← expandWord run wordDepth .fields false word
  let session := (← get).session
  let fields := fieldsOf session.separators pieces
  if session.has 'f' then return fields.map fun field => field.map Prod.fst
  else
    let files ← files
    return fields.flatMap (pathsOf files)

/-- The pattern that a word is. -/
def expandPattern (word : Word) : Act (List Glob) := do
  let pieces ← expandWord run wordDepth .single false word
  return (markedOfPieces (joint (← get).session) pieces).glob

end

end FlowCheck.Shell
