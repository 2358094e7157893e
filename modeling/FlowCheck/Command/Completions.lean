import FlowCheck.Command.Result
import FlowCheck.CommandLine.Parameter

/-!
# Completions

Scripts that make a shell complete the program's commands and options.
-/

namespace FlowCheck

/-- The words that can stand after the program's name or after that of a command. -/
def Level.suggestions (level : Level) : List String :=
  let options := level.options.flatMap fun parameter =>
    s!"--{parameter.long}" :: parameter.short?.toList.map fun letter => s!"-{letter}"
  match level with
  | .program => Level.commands.map Level.name ++ options
  | _ => options ++ (level.operand?.toList.flatMap Parameter.choices)

namespace CompletionShell

/-- A line for each level. -/
def perLevel (line : Level → String) : String :=
  String.join ((.program :: Level.commands).map fun level => line level ++ "\n")

/-- The words of a level in one line. -/
def wordsOf (level : Level) : String :=
  " ".intercalate level.suggestions

/-- The script for a shell. -/
def script : CompletionShell → String
  | .bash =>
    s!"_{programName}() \x7b\n  case \"$\x7bCOMP_WORDS[1]\x7d\" in\n" ++
      String.join (Level.commands.map fun level =>
        s!"    {level.name}) words=\"{wordsOf level}\" ;;\n") ++
      s!"    *) words=\"{wordsOf .program}\" ;;\n  esac\n" ++
      "  COMPREPLY=( $(compgen -W \"$words\" -- \"$\x7bCOMP_WORDS[COMP_CWORD]\x7d\") )\n\x7d\n" ++
      s!"complete -F _{programName} -o default {programName}\n"
  | .zsh =>
    s!"#compdef {programName}\n" ++
      perLevel fun level => s!"compadd {wordsOf level} # {level.name}"
  | .fish =>
    perLevel fun level =>
      let condition := match level with
        | .program => "__fish_use_subcommand"
        | level => s!"__fish_seen_subcommand_from {level.name}"
      s!"complete -c {programName} -n '{condition}' -a '{wordsOf level}'"
  | .elvish =>
    s!"set edit:completion:arg-completer[{programName}] = \x7b|@words|\n" ++
      perLevel (fun level => s!"  put {wordsOf level}") ++ "\x7d\n"
  | .powershell =>
    s!"Register-ArgumentCompleter -Native -CommandName '{programName}' -ScriptBlock \x7b\n" ++
      perLevel (fun level => s!"  '{wordsOf level}' -split ' '") ++ "\x7d\n"

end CompletionShell

/-- The command that writes a script. -/
def CompletionShell.emit (shell : CompletionShell) : CommandRun :=
  ⟨[.emit shell.script], .ok .succeeded⟩

end FlowCheck
