/-!
# Failures

Everything that can keep a check or a command from its result, as causes, with the texts shown for
them in one place.
-/

namespace FlowCheck

/-- What the operating system, or the reading of a text, reports. -/
inductive SystemError where
  | notFound
  | permissionDenied
  | notDirectory
  | isDirectory
  | tooManyLinks
  | nameTooLong
  | brokenPipe
  | invalidText
  | nulInArgument
  | nulInPath
  | notProgram
  | argumentsTooLong
  | other (message : String)
  deriving Repr, DecidableEq

/-- The report in words. -/
def SystemError.message : SystemError → String
  | .notFound => "No such file or directory (os error 2)"
  | .permissionDenied => "Permission denied (os error 13)"
  | .notDirectory => "Not a directory (os error 20)"
  | .isDirectory => "Is a directory (os error 21)"
  | .tooManyLinks => "Too many levels of symbolic links (os error 40)"
  | .nameTooLong => "File name too long (os error 36)"
  | .brokenPipe => "Broken pipe (os error 32)"
  | .invalidText => "stream did not contain valid UTF-8"
  | .nulInArgument => "nul byte found in provided data"
  | .nulInPath => "file name contained an unexpected NUL byte"
  | .notProgram => "Exec format error (os error 8)"
  | .argumentsTooLong => "Argument list too long (os error 7)"
  | .other message => message

/-- One of the checker's standard streams. -/
inductive StreamName where
  | stdin
  | stdout
  | stderr
  deriving Repr, DecidableEq

/-- The name of a stream in messages. -/
def StreamName.name : StreamName → String
  | .stdin => "stdin"
  | .stdout => "stdout"
  | .stderr => "stderr"

/-- Why a check or a command has no result. -/
inductive Failure where
  /-- No file has the checker's name. -/
  | executableNotFound (path : String)
  /-- The checker's file may not be executed. -/
  | notExecutable (path : String)
  /-- The checker could not be started for another reason. -/
  | spawnFailed (path : String) (cause : SystemError)
  /-- Reading from or writing to the checker failed. -/
  | streamFailed (stream : StreamName) (cause : SystemError)
  /-- The reading of a stream ended before the stream did. -/
  | interrupted (message : String)
  /-- The checker ran past its deadline and was killed. -/
  | timedOut (seconds : Nat)
  /-- The checker wrote nothing but white space. -/
  | emptyOutput
  /-- The checker's output is no response; it is kept. -/
  | malformedResponse (reason : String) (raw : String)
  /-- The checker reported failure without a list of errors. -/
  | inconsistentResponse
  /-- A settings file is missing. -/
  | settingsNotFound (path : String)
  /-- A settings file is not valid, or holds a value of the wrong type. -/
  | settingsInvalid (path : String) (reason : String)
  /-- A file could not be read. -/
  | system (cause : SystemError)
  /-- Any other reason. -/
  | other (message : String)
  deriving Repr, DecidableEq

/-- The coarse kinds of failure. -/
inductive FailureKind where
  | process
  | emptyOutput
  | malformedResponse
  | inconsistentResponse
  | settings
  | other
  deriving Repr, DecidableEq

/-- The name of a kind of failure. -/
def FailureKind.name : FailureKind → String
  | .process => "Process"
  | .emptyOutput => "EmptyOutput"
  | .malformedResponse => "MalformedResponse"
  | .inconsistentResponse => "InconsistentResponse"
  | .settings => "Config"
  | .other => "Other"

namespace Failure

/-- The kind of a failure. -/
def kind : Failure → FailureKind
  | .executableNotFound _ | .notExecutable _ | .spawnFailed .. | .streamFailed ..
  | .interrupted _ | .timedOut _ => .process
  | .emptyOutput => .emptyOutput
  | .malformedResponse .. => .malformedResponse
  | .inconsistentResponse => .inconsistentResponse
  | .settingsNotFound _ | .settingsInvalid .. => .settings
  | .system _ | .other _ => .other

/-- The failure in words. -/
def message : Failure → String
  | .executableNotFound path => s!"Checker executable not found: {path}"
  | .notExecutable path => s!"Checker executable is not executable: {path}"
  | .spawnFailed path cause => s!"Failed to start checker '{path}': {cause.message}"
  | .streamFailed stream cause => s!"I/O error on checker {stream.name}: {cause.message}"
  | .interrupted reason => s!"Interrupted while waiting for checker: {reason}"
  | .timedOut seconds => s!"Checker timed out after {seconds}s and was terminated"
  | .emptyOutput => "Checker produced no output"
  | .malformedResponse reason _ => s!"Malformed checker response: {reason}"
  | .inconsistentResponse => "Checker reported failure without errors"
  | .settingsNotFound path => s!"Configuration not found: {path}"
  | .settingsInvalid path reason => s!"Failed to parse config at {path}: {reason}"
  | .system cause => s!"IO error: {cause.message}"
  | .other reason => reason

/-- The checker's output, where a failure keeps it. -/
def rawOutput? : Failure → Option String
  | .malformedResponse _ raw => some raw
  | _ => none

end Failure

end FlowCheck
