import FlowCheck.CommandLine.Parameter

/-!
# Usage errors

Why a command line asks for nothing that can be done. Asking for help or for the version counts as
well.
-/

namespace FlowCheck

/-- Why a command line is not read to its end. -/
inductive UsageError where
  | help
  | version
  /-- Nothing at all is given. -/
  | nothingGiven
  | missingCommand
  | unknownCommand (name : String)
  | unknownArgument (level : Level) (argument : String)
  | unneededValue (level : Level) (parameter : Parameter) (value : String)
  | missingValue (parameter : Parameter)
  | invalidValue (parameter : Parameter) (value : String)
  | invalidNumber (parameter : Parameter) (value : String)
  | repeated (level : Level) (parameter : Parameter)
  | missingArgument (level : Level) (parameter : Parameter)
  deriving Repr, DecidableEq

namespace UsageError

/-- What is wrong with a text that is no number of seconds. -/
def numberProblem (value : String) : String :=
  let digits := match value.toList with
    | '+' :: digits => digits
    | digits => digits
  if value.isEmpty then "cannot parse integer from empty string"
  else if !digits.isEmpty && digits.all Char.isDigit then
    "number too large to fit in target type"
  else "invalid digit found in string"

/-- A list of the only values there are, on a line of its own. -/
def choiceLine (parameter : Parameter) : String :=
  let list := ", ".intercalate parameter.choices
  if list.isEmpty then "" else s!"\n  [possible values: {list}]"

/-- The error in words. -/
def reason : UsageError → String
  | .help | .nothingGiven => s!"Usage: {Level.program.usage}"
  | .version => s!"{programName} {programVersion}"
  | .missingCommand => s!"'{programName}' requires a subcommand but one was not provided\n" ++
      "  [subcommands: check, config, completions, help]"
  | .unknownCommand name => s!"unrecognized subcommand '{name}'"
  | .unknownArgument _ argument => s!"unexpected argument '{argument}' found"
  | .unneededValue _ parameter value =>
    s!"unexpected value '{value}' for '{parameter.written}' found; no more were expected"
  | .missingValue parameter =>
    s!"a value is required for '{parameter.written}' but none was supplied{choiceLine parameter}"
  | .invalidValue parameter value =>
    s!"invalid value '{value}' for '{parameter.written}'{choiceLine parameter}"
  | .invalidNumber parameter value =>
    s!"invalid value '{value}' for '{parameter.written}': {numberProblem value}"
  | .repeated _ parameter => s!"the argument '{parameter.written}' cannot be used multiple times"
  | .missingArgument _ parameter =>
    s!"the following required arguments were not provided:\n  {parameter.written}"

/-- The level whose usage is shown with an error. -/
def level? : UsageError → Option Level
  | .missingCommand | .unknownCommand _ => some .program
  | .unknownArgument level _ | .unneededValue level .. | .repeated level _
  | .missingArgument level _ => some level
  | _ => none

/-- All that is said about an error. -/
def message (error : UsageError) : String :=
  match error with
  | .help | .version | .nothingGiven => s!"{error.reason}\n"
  | error =>
    let usage := match error.level? with
      | some level => s!"\nUsage: {level.usage}\n"
      | none => ""
    s!"error: {error.reason}\n{usage}\nFor more information, try '--help'.\n"

/-- Whether what is said goes to standard output, as the answer to a question. -/
def isAnswer : UsageError → Bool
  | .help | .version => true
  | _ => false

end UsageError

end FlowCheck
