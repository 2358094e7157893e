import FlowCheck.Report

/-!
# Command lines

What a command line asks for, once it is read.
-/

namespace FlowCheck

/-- The shells for which there are completions. -/
inductive CompletionShell where
  | bash
  | elvish
  | fish
  | powershell
  | zsh
  deriving Repr, DecidableEq

namespace CompletionShell

/-- The name of a shell. -/
def name : CompletionShell → String
  | .bash => "bash"
  | .elvish => "elvish"
  | .fish => "fish"
  | .powershell => "powershell"
  | .zsh => "zsh"

/-- All shells. -/
def all : List CompletionShell := [.bash, .elvish, .fish, .powershell, .zsh]

/-- The shell that a name names. -/
def ofName? (name : String) : Option CompletionShell :=
  all.find? fun shell => shell.name = name

end CompletionShell

/-- The name of a report's form. -/
def ReportFormat.name : ReportFormat → String
  | .human => "human"
  | .json => "json"

/-- The form of a report that a name names. -/
def ReportFormat.ofName? (name : String) : Option ReportFormat :=
  [ReportFormat.human, .json].find? fun format => format.name = name

/-- What is asked of a check. -/
structure CheckOptions where
  file : String
  /-- Whether the text comes from standard input. -/
  fromInput : Bool := false
  format : ReportFormat := .human
  /-- The checker to be run. -/
  executable : Option String := none
  /-- How many seconds it may run. -/
  timeout : Option UInt64 := none
  deriving Repr, DecidableEq

/-- A command. -/
inductive Command where
  | check (options : CheckOptions)
  | config (json : Bool)
  | completions (shell : CompletionShell)
  deriving Repr, DecidableEq

/-- A command with the options that every command has. -/
structure CommandLine where
  /-- The settings file to be used alone. -/
  config : Option String := none
  /-- The project's directory. -/
  project : Option String := none
  verbose : Bool := false
  quiet : Bool := false
  noColour : Bool := false
  debug : Bool := false
  command : Command
  deriving Repr, DecidableEq

end FlowCheck
