import FlowCheck.CommandLine

/-!
# Parameters

What can be set on a command line, at which level, and how it is written. Options of the program
itself may also stand after the command.
-/

namespace FlowCheck

/-- The program itself, or one of its commands. -/
inductive Level where
  | program
  | check
  | config
  | completions
  deriving Repr, DecidableEq

/-- Something that a command line sets. -/
inductive Parameter where
  | config
  | project
  | verbose
  | quiet
  | noColour
  | debug
  | help
  | version
  | file
  | fromInput
  | format
  | executable
  | timeout
  | json
  | shell
  deriving Repr, DecidableEq

/-- The name of the program. -/
def programName : String := "flowtc"

/-- The version of the program. -/
def programVersion : String := "0.4.0"

namespace Level

/-- The commands. -/
def commands : List Level := [.check, .config, .completions]

/-- The name of a level as it is called. -/
def name : Level → String
  | .program => programName
  | .check => "check"
  | .config => "config"
  | .completions => "completions"

/-- The options at a level. -/
def options (level : Level) : List Parameter :=
  [.config, .project, .verbose, .quiet, .noColour, .debug, .help, .version] ++
  match level with
  | .check => [.fromInput, .format, .executable, .timeout]
  | .config => [.json]
  | _ => []

/-- What stands at a level without a name; it has to be there. -/
def operand? : Level → Option Parameter
  | .check => some .file
  | .completions => some .shell
  | _ => none

/-- How a level is called. -/
def usage : Level → String
  | .program => s!"{programName} [OPTIONS] <COMMAND>"
  | .check => s!"{programName} check [OPTIONS] <FILE>"
  | .config => s!"{programName} config [OPTIONS]"
  | .completions => s!"{programName} completions [OPTIONS] <SHELL>"

end Level

namespace Parameter

/-- The long name of an option. -/
def long : Parameter → String
  | .config => "config"
  | .project => "project"
  | .verbose => "verbose"
  | .quiet => "quiet"
  | .noColour => "no-color"
  | .debug => "debug"
  | .help => "help"
  | .version => "version"
  | .fromInput => "stdin"
  | .format => "format"
  | .executable => "flow-path"
  | .timeout => "timeout"
  | .json => "json"
  | .file => "FILE"
  | .shell => "SHELL"

/-- The letter of an option. -/
def short? : Parameter → Option Char
  | .config => some 'c'
  | .project => some 'p'
  | .verbose => some 'v'
  | .quiet => some 'q'
  | .help => some 'h'
  | .version => some 'V'
  | _ => none

/-- The name of an option's value, if it has one. -/
def valueName? : Parameter → Option String
  | .config => some "CONFIG"
  | .project => some "PROJECT"
  | .format => some "FORMAT"
  | .executable => some "FLOW_PATH"
  | .timeout => some "SECS"
  | _ => none

/-- A parameter as messages write it. -/
def written : Parameter → String
  | .file => "<FILE>"
  | .shell => "<SHELL>"
  | parameter =>
    match parameter.valueName? with
    | some name => s!"--{parameter.long} <{name}>"
    | none => s!"--{parameter.long}"

/-- The only values of a parameter, if it has no others. -/
def choices : Parameter → List String
  | .format => ["human", "json"]
  | .shell => CompletionShell.all.map CompletionShell.name
  | _ => []

end Parameter

/-- The number of seconds that a text is: digits, with or without a plus sign, within 64 bits. -/
def readSeconds? (text : String) : Option UInt64 :=
  let digits := match text.toList with
    | '+' :: digits => digits
    | digits => digits
  let value := digits.foldl (fun value digit => 10 * value + (digit.toNat - '0'.toNat)) 0
  if !digits.isEmpty && digits.all Char.isDigit && value < 0x10000000000000000 then
    some (UInt64.ofNat value)
  else none

end FlowCheck
