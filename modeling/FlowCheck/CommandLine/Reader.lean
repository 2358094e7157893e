import FlowCheck.CommandLine.Usage

/-!
# Reading command lines

A command line is read word by word, first at the level of the program and from a command's name on
at the level of the command. The value of an option is looked at when the next one begins, so of two
mistakes the one that is read to its end first counts; the command's mistakes come before those that
are only seen at the program's own end.
-/

namespace FlowCheck

/-- What is read at a level so far. -/
structure LevelReading where
  level : Level
  /-- The parameters that are set, each once. -/
  given : List (Parameter × String) := []
  /-- The parameter that is being read, with its value once that is there. -/
  pending : Option (Parameter × Option String) := none
  /-- Whether the next word may be the value of an option. -/
  awaiting : Bool := false

namespace LevelReading

/-- Whether a parameter is set. -/
def has (reading : LevelReading) (parameter : Parameter) : Bool :=
  reading.given.any fun entry => entry.1 = parameter

/-- Refuse a value that a parameter cannot have. -/
def checkValue (parameter : Parameter) (value : String) : Except UsageError Unit :=
  match parameter with
  | .timeout =>
    if (readSeconds? value).isSome then .ok () else .error (.invalidNumber parameter value)
  | .config | .project | .file | .executable =>
    if value.isEmpty then .error (.missingValue parameter) else .ok ()
  | _ =>
    if parameter.choices.isEmpty || parameter.choices.contains value then .ok ()
    else if value.isEmpty then .error (.missingValue parameter)
    else .error (.invalidValue parameter value)

/-- Set a parameter, once. -/
def set (reading : LevelReading) (parameter : Parameter) (value : String) :
    Except UsageError LevelReading := do
  if reading.has parameter then throw (.repeated reading.level parameter)
  checkValue parameter value
  return { reading with given := reading.given ++ [(parameter, value)] }

/-- Set the parameter that is being read. -/
def settle (reading : LevelReading) : Except UsageError LevelReading :=
  match reading.pending with
  | none => .ok reading
  | some (parameter, none) => .error (.missingValue parameter)
  | some (parameter, some value) => { reading with pending := none }.set parameter value

/-- Read a flag. Asking for help or the version ends the reading. -/
def flag (reading : LevelReading) (parameter : Parameter) : Except UsageError LevelReading := do
  let reading ← reading.settle
  match parameter with
  | .help => throw .help
  | .version => throw .version
  | parameter => return { ← reading.set parameter "true" with awaiting := false }

/-- Read an option with the value that is attached to it, or with one still to come. -/
def option (reading : LevelReading) (parameter : Parameter) (value : Option String) :
    Except UsageError LevelReading := do
  let reading ← reading.settle
  match value with
  | some value => return { ← reading.set parameter value with awaiting := false }
  | none => return { reading with pending := some (parameter, none), awaiting := true }

/-- Read a word that begins with two dashes. -/
def longWord (reading : LevelReading) (word : String) : Except UsageError LevelReading :=
  let inner := word.toList.drop 2
  let name := String.ofList (inner.takeWhile (· ≠ '='))
  let value := match inner.dropWhile (· ≠ '=') with
    | _ :: value => some (String.ofList value)
    | [] => none
  match reading.level.options.find? fun parameter => parameter.long = name with
  | none => .error (.unknownArgument reading.level s!"--{name}")
  | some parameter =>
    match parameter.valueName?, value with
    | some _, value => reading.option parameter value
    | none, some value => .error (.unneededValue reading.level parameter value)
    | none, none => reading.flag parameter

/-- Read the letters after a single dash. The first one that takes a value takes the rest, if there
is any. -/
def letters (reading : LevelReading) : List Char → Except UsageError LevelReading
  | [] => .ok reading
  | letter :: rest =>
    match reading.level.options.find? fun parameter => parameter.short? = some letter with
    | none => .error (.unknownArgument reading.level s!"-{letter}")
    | some parameter =>
      match parameter.valueName?, rest with
      | none, rest => do (← reading.flag parameter).letters rest
      | some _, [] => reading.option parameter none
      | some _, '=' :: value => reading.option parameter (some (String.ofList value))
      | some _, value => reading.option parameter (some (String.ofList value))

/-- Read a word that stands for itself. -/
def operand (reading : LevelReading) (closed : Bool) (word : String) :
    Except UsageError LevelReading :=
  let pendingOperand := reading.pending.any fun entry => some entry.1 = reading.level.operand?
  match reading.level.operand? with
  | some parameter =>
    if reading.has parameter || pendingOperand then
      .error (.unknownArgument reading.level word)
    else do
      return { ← reading.settle with pending := some (parameter, some word), awaiting := false }
  | none =>
    let namesCommand := word = "help" || Level.commands.any fun level => level.name = word
    if reading.level = .program && !(closed && namesCommand) then .error (.unknownCommand word)
    else .error (.unknownArgument reading.level word)

end LevelReading

/-- The help that is asked for by words: the names of commands, one inside the other. -/
def helpFor (level : Level) : List String → UsageError
  | [] => .help
  | name :: rest =>
    let inner := if level = .program then Level.commands.find? fun inner => inner.name = name
      else none
    match inner with
    | some inner => helpFor inner rest
    | none =>
      if level = .program && name = "help" && rest.isEmpty then .help
      else .unknownCommand (if level = .program && name = "help" then rest.headD name else name)

/-- Read words up to the name of a command or to the end. After two dashes alone no word is an
option or the name of a command. -/
def readWords (reading : LevelReading) (closed : Bool) :
    List String → Except UsageError (LevelReading × Option (Level × List String))
  | [] => .ok (reading, none)
  | word :: rest =>
    let command := if reading.level = .program && !closed && !reading.awaiting then
        Level.commands.find? fun level => level.name = word
      else none
    match command with
    | some level => .ok (reading, some (level, rest))
    | none =>
      if reading.level = .program && !closed && !reading.awaiting && word = "help" then
        .error (helpFor .program rest)
      else if closed then do readWords (← reading.operand closed word) closed rest
      else if word = "--" then readWords reading true rest
      else if word.startsWith "--" then do readWords (← reading.longWord word) closed rest
      else if word.startsWith "-" && word ≠ "-" then do
        readWords (← reading.letters (word.toList.drop 1)) closed rest
      else if reading.awaiting then
        readWords
          { reading with
            pending := reading.pending.map fun entry => (entry.1, some word), awaiting := false }
          closed rest
      else do readWords (← reading.operand closed word) closed rest

/-- What is set at the level of a command; the environment may name the checker. -/
def readCommand (level : Level) (checker : Option String) (words : List String) :
    Except UsageError (List (Parameter × String)) := do
  let (reading, _) ← readWords { level } false words
  let reading ← reading.settle
  let reading ← match checker with
    | some value =>
      if level = .check && !reading.has .executable then reading.set .executable value
      else pure reading
    | none => pure reading
  match level.operand? with
  | some parameter =>
    if reading.has parameter then return reading.given
    else throw (.missingArgument level parameter)
  | none => return reading.given

/-- The command at a level with its parameters. -/
def commandOf (level : Level) (given : List (Parameter × String)) : Command :=
  match level with
  | .check => .check {
      file := (given.lookup .file).getD ""
      fromInput := (given.lookup .fromInput).isSome
      format := ((given.lookup .format).bind ReportFormat.ofName?).getD .human
      executable := given.lookup .executable
      timeout := (given.lookup .timeout).bind readSeconds? }
  | .completions =>
    .completions (((given.lookup .shell).bind CompletionShell.ofName?).getD .bash)
  | _ => .config (given.lookup .json).isSome

/-- Read a command line, without the program's own name. -/
def CommandLine.read (checker : Option String) (words : List String) :
    Except UsageError CommandLine := do
  let (program, command) ← readWords { level := .program } false words
  match command with
  | none =>
    let program ← program.settle
    throw (if program.given.isEmpty then .nothingGiven else .missingCommand)
  | some (level, rest) =>
    let inner ← readCommand level checker rest
    let outer := (← program.settle).given
    let value (parameter : Parameter) : Option String :=
      (inner.lookup parameter).or (outer.lookup parameter)
    return {
      config := value .config
      project := value .project
      verbose := (value .verbose).isSome
      quiet := (value .quiet).isSome
      noColour := (value .noColour).isSome
      debug := (value .debug).isSome
      command := commandOf level inner }

end FlowCheck
