import FlowCheck.Command.Result
import FlowCheck.CommandLine
import FlowCheck.Host
import FlowCheck.Project
import FlowCheck.Settings.Layers
import FlowCheck.Settings.Writer

/-!
# Showing the settings

The command shows which files the settings come from, the settings themselves in a form that reads
back as the same settings, and what file the checker's name stands for.
-/

namespace FlowCheck

namespace CommandLine

/-- The project whose settings are shown: the one that is given, or the one that the current
directory belongs to, or else that directory. -/
def settingsProject (line : CommandLine) (files : Files) : Except Failure String :=
  match line.project with
  | some project => orFail (files.canonical project)
  | none =>
    let directory := Place.path files.directory
    .ok ((files.projectOf? directory).getD directory)

/-- The files that the settings come from. -/
def settingsSources (line : CommandLine) (host : Host) (project : String) : List String :=
  match line.config with
  | some path => [path]
  | none => (Layers.discover host.files host.home project).paths

end CommandLine

/-- What is said of the files that settings come from. -/
def sourceActs : List String → List Act
  | [] => [.message "# no settings files, using defaults"]
  | paths => paths.map fun path => .message s!"# {path}"

/-- What is said of the checker's name. -/
def executableAct (host : Host) (settings : Settings) : Act :=
  match host.files.showProgram? host.searchPath settings.executable with
  | some path => .message s!"# checker resolves to {path}"
  | none => .warning s!"Checker executable {settings.executable} not found"

/-- The settings as they are shown. -/
def Settings.shown (settings : Settings) (json : Bool) : String :=
  if json then settings.json ++ "\n" else settings.yaml

/-- The command on a host. -/
def CommandLine.showSettings (line : CommandLine) (host : Host) (json : Bool) : CommandRun :=
  let loaded : Except Failure (String × Settings) := do
    let project ← line.settingsProject host.files
    return (project, ← Settings.load host.files host.home project line.config)
  match loaded with
  | .error failure => .failure failure
  | .ok (project, settings) =>
    ⟨sourceActs (line.settingsSources host project) ++
      [.emit (settings.shown json), executableAct host settings], .ok .succeeded⟩

end FlowCheck
