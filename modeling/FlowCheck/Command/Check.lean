import FlowCheck.Checker
import FlowCheck.Command.Result
import FlowCheck.CommandLine
import FlowCheck.Host
import FlowCheck.Project
import FlowCheck.Report.Rendering
import FlowCheck.Settings.Layers

/-!
# Checking a file

The command finds the file, its project, the settings and the text, and only then starts the
checker. Its exit code tells apart a file without diagnostics, one with some, and a check that has
no result.
-/

namespace FlowCheck

/-- The exit code for a file with diagnostics. -/
def diagnosticsExit : Nat := 1

/-- The exit code for a check that has no result. -/
def failureExit : Nat := 2

namespace CheckOptions

/-- The canonical path of the file. A file whose text comes from standard input need not exist, but
its directory has to. -/
def path (options : CheckOptions) (files : Files) : Except Failure String :=
  match files.canonical options.file with
  | .ok path => .ok path
  | .error cause =>
    if options.fromInput then
      match Path.fileName? options.file with
      | none => .error (.system cause)
      | some name => do
        let directory := ((Path.parent? options.file).filter fun path => !path.isEmpty).getD "."
        return Path.join (← orFail (files.canonical directory)) name
    else .error (.system cause)

/-- The project of a file: the one that is given, or the one that the file's directory belongs to,
or else that directory. -/
def projectOf (files : Files) (project : Option String) (path : String) :
    Except Failure String :=
  match project with
  | some project => orFail (files.canonical project)
  | none =>
    let directory := (Path.parent? path).getD path
    .ok ((files.projectOf? directory).getD directory)

/-- The text to be checked. -/
def text (options : CheckOptions) (host : Host) (path : String) : Except Failure String :=
  if options.fromInput then orFail (Node.file host.input false).read
  else orFail (host.files.read path)

/-- The settings of a check. -/
def settings (options : CheckOptions) (host : Host) (project : String)
    (file : Option String) : Except Failure Settings := do
  return (← Settings.load host.files host.home project file).override
    options.executable options.timeout

/-- A length of time, given in milliseconds, with two decimals. -/
def elapsedText (milliseconds : Nat) : String :=
  let twoDigits (n : Nat) : String := (if n < 10 then "0" else "") ++ toString n
  if milliseconds < 1000 then s!"{milliseconds}.00ms"
  else s!"{milliseconds / 1000}.{twoDigits (milliseconds % 1000 / 10)}s"

/-- What is shown of a check, and how the command ends. -/
def present (options : CheckOptions) (mode : OutputMode) (colours : Bool) (shown text : String) :
    Except Failure CheckResult → List Act × CommandResult
  | .error failure =>
    let raw := match failure.rawOutput? with
      | some raw => if mode.showsDetails then [Act.message s!"Raw checker output:\n{raw}"] else []
      | none => []
    (.error s!"Flow check failed: {failure.message}" :: raw, .failed failureExit)
  | .ok result =>
    let report : Report := ⟨shown, Document.ofString text, result.diagnostics⟩
    let rendered := report.render colours options.format
    let emitted := if rendered.isEmpty then [] else [Act.emit rendered]
    let details :=
      if mode.showsDetails then
        [Act.message <| s!"Flow finished in {elapsedText result.elapsed} " ++
          s!"(exit code {exitCodeText result.exitCode})"]
      else []
    if result.diagnostics.isEmpty then
      let elsewhere :=
        if result.passed then [] else [Act.warning "Flow reported errors in other files only"]
      let clean :=
        if options.format = .human then [Act.success s!"No errors in {shown}"] else []
      (emitted ++ details ++ elsewhere ++ clean, .succeeded)
    else (emitted ++ details, .failed diagnosticsExit)

/-- The command on a host, with the runs of the checker given. -/
def run (options : CheckOptions) (host : Host) (launch : Launch → Except Failure Finished)
    (line : CommandLine) (mode : OutputMode) : Logged CommandRun := do
  let found : Except Failure (String × String) := do
    let path ← options.path host.files
    return (path, ← projectOf host.files line.project path)
  match found with
  | .error failure => return .failure failure
  | .ok (path, root) =>
    Logged.note (.checking path root)
    let prepared : Except Failure (Settings × String) := do
      let settings ← options.settings host root line.config
      return (settings, ← options.text host path)
    match prepared with
    | .error failure => return .failure failure
    | .ok (settings, text) =>
      let request : Request := ⟨text, path, root⟩
      let shown := (Path.below? root path).getD path
      let result ← settings.check launch request.lineIndex request
      let (acts, ending) :=
        options.present mode (host.colours && !line.noColour) shown text result
      return ⟨.spin s!"Checking {shown}" :: acts, .ok ending⟩

end CheckOptions

end FlowCheck
