import FlowCheck.Json.Printer
import FlowCheck.Settings
import FlowCheck.Yaml.Printer

/-!
# Writing settings

Settings are written as a settings file that reads back as the same settings, or as JSON. A timeout
that is not set is left out.
-/

namespace FlowCheck

open Yaml

namespace Settings

/-- A key with its text. -/
def yamlField (key : String) (text : String) : List Char :=
  key.toList ++ [':', ' '] ++ writeText text.toList

/-- A list of texts under a key: one line for each, or a pair of brackets. -/
def yamlList (key : String) (texts : List String) : List Char :=
  match texts with
  | [] => key.toList ++ ": []\n".toList
  | texts =>
    key.toList ++ [':', '\n'] ++ texts.flatMap fun text => ['-', ' '] ++ writeText text.toList

/-- The settings file. -/
def yaml (settings : Settings) : String :=
  String.ofList (yamlField "flow_path" settings.executable ++
    yamlList "args" settings.arguments ++
    yamlField "stdin_sentinel" settings.sentinel ++
    match settings.timeout with
    | some seconds => "timeout_secs: ".toList ++ Nat.toDigits 10 seconds.toNat ++ ['\n']
    | none => [])

/-- The settings as a JSON value. -/
def toJson (settings : Settings) : Json.Value :=
  .object ([
    ("flow_path", .text settings.executable),
    ("args", .array (settings.arguments.map Json.Value.text)),
    ("stdin_sentinel", .text settings.sentinel)] ++
    match settings.timeout with
    | some seconds => [("timeout_secs", .ofNat seconds.toNat)]
    | none => [])

/-- The settings as JSON over several lines, without a newline at the end. -/
def json (settings : Settings) : String :=
  String.ofList (settings.toJson.pretty 0)

end Settings

end FlowCheck
