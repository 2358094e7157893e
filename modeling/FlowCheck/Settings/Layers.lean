import FlowCheck.Files.Tree
import FlowCheck.Settings.Reader
import FlowCheck.Yaml.Meaning
import FlowCheck.Yaml.Overlay

/-!
# Layers of settings

Settings come from up to three files, each laid over the one before: the user's, the project's, and
the project's local one. A file that is named on the command line stands alone instead.
-/

namespace FlowCheck

open Yaml

/-- The directory of settings files, in a project and in a home directory. -/
def settingsDirectory : String := ".flowtc"

/-- The path of a settings file below a directory. -/
def settingsPath (directory name : String) : String :=
  Path.join (Path.join directory settingsDirectory) name

/-- The settings files that there are. -/
structure Layers where
  user : Option String := none
  project : Option String := none
  projectLocal : Option String := none
  deriving Repr, DecidableEq

namespace Layers

/-- The settings files for a project. -/
def discover (files : Files) (home : Option String) (project : String) : Layers where
  user := (home.map fun home => settingsPath home "config.yml").filter files.hasFile
  project := some (settingsPath project "config.yml") |>.filter files.hasFile
  projectLocal := some (settingsPath project "config.local.yml") |>.filter files.hasFile

/-- The files in the order in which they are laid over each other. -/
def paths (layers : Layers) : List String :=
  [layers.user, layers.project, layers.projectLocal].filterMap id

end Layers

/-- The value that a settings file's text is. A text without content is an empty mapping. -/
def settingsValue? (text : String) : Option Value :=
  (Value.ofChars? text.toList).map fun value => if value.isNull then .mapping [] else value

namespace Files

/-- The value of a settings file. -/
def readSettings (files : Files) (path : String) : Except Failure Value :=
  match files.read path with
  | .error .notFound => .error (.settingsNotFound path)
  | .error cause => .error (.system cause)
  | .ok text =>
    match settingsValue? text with
    | some value => .ok value
    | none => .error (.settingsInvalid path "not a YAML document")

end Files

namespace Settings

/-- The settings that a value is; if it is none, `path` is blamed. -/
def ofValue (path : String) (value : Value) : Except Failure Settings :=
  match ofYaml? value with
  | some settings => .ok settings
  | none => .error (.settingsInvalid path "not a mapping of settings")

/-- The settings of one file. -/
def loadFile (files : Files) (path : String) : Except Failure Settings := do
  ofValue path (← files.readSettings path)

/-- The settings of a project from all its layers. -/
def loadLayers (files : Files) (home : Option String) (project : String) :
    Except Failure Settings := do
  let values ← (Layers.discover files home project).paths.mapM files.readSettings
  ofValue (settingsPath project "config.yml") (values.foldl overlay (.mapping []))

/-- The settings of a project, from one file alone if that is given. -/
def load (files : Files) (home : Option String) (project : String) (file : Option String) :
    Except Failure Settings :=
  match file with
  | some path => loadFile files path
  | none => loadLayers files home project

end Settings

end FlowCheck
