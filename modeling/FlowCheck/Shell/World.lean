import FlowCheck.Files.Program
import FlowCheck.Run.Deed
import FlowCheck.Shell.Arithmetic
import FlowCheck.Shell.Source
import FlowCheck.Shell.Supply

/-!
# The world of a script

What a running script can see and change: files, variables, and where its streams lead. What it does
to the world outside is kept as a list of deeds.
-/

namespace FlowCheck.Shell

/-- What stands behind a stream that was opened. Streams that share it share its place. -/
inductive Channel where
  /-- The input from outside, of which so much is left. -/
  | input (left : Supply)
  /-- One of the streams to the outside. -/
  | output (stream : StreamName)
  /-- A text to be read. -/
  | supply (left : Supply)
  /-- A text that is being gathered, with the last byte first. -/
  | gathered (content : Supply)
  | file (place : Place) (offset : Nat) (reads writes appends : Bool)
  | device (gives : Option UInt8)

/-- A variable. One that has no value can be marked all the same. -/
structure Variable where
  value : Option Bytes := none
  exported : Bool := false
  readonly : Bool := false
  deriving Repr, DecidableEq

/-- The options of a shell, by the letters that set them. -/
abbrev Letters := List Char

/-- What a function has put aside until it ends. -/
structure Frame where
  entries : List (Bytes × Variable) := []
  options : Option Letters := none

/-- What a shell knows. A shell that is started by another one begins with a copy. -/
structure Session where
  directory : Place
  bindings : List (Bytes × Variable)
  zeroth : Bytes
  arguments : List Bytes := []
  functions : List (Bytes × Command) := []
  aliases : List (Bytes × Bytes) := []
  /-- What each numbered stream leads to, by the number of a channel. -/
  streams : List (Nat × Nat) := [(0, 0), (1, 1), (2, 2)]
  status : Nat := 0
  options : Letters := []
  /-- Whether a failure is being looked at and ends nothing. -/
  guarded : Bool := false
  /-- What is done when a signal comes; number zero is the end of the shell. -/
  traps : List (Nat × Bytes) := []
  /-- What functions have put aside, the innermost function first. -/
  frames : List Frame := []
  /-- How many loops are running in this function. -/
  loops : Nat := 0
  /-- How many functions and read scripts are running. -/
  calls : Nat := 0
  /-- The line of the command that is running. -/
  line : Nat := 1
  /-- The name of the shell's own command that is running. -/
  running : Option Bytes := none
  /-- Which argument is read for letters next, and how far the one before has been read. -/
  position : Nat := 1
  letter : Nat := 0
  /-- The number of the shell, and that of the last process in the background. -/
  number : Nat
  background : Option Nat := none
  /-- The status of the last commands in a word. -/
  outputStatus : Option Nat := none
  mask : Nat := 0o022
  /-- Whether a program has written something that nobody could take. -/
  lostOutput : Bool := false
  /-- Whether this shell has its number for itself, and is not a copy of another. -/
  ownsNumber : Bool := true
  /-- The numbers of the shells that wait for this one, the nearest first. -/
  ancestors : List Nat := []
  /-- Whether this is the shell that was started from outside. -/
  outermost : Bool := false

/-- A process in the background: its number, the status with which it ends, and how many deeds had
been done when it began. -/
structure Job where
  number : Nat
  status : Nat
  deeds : Nat

/-- All that a script can see or change. -/
structure World where
  root : Node
  channels : List (Nat × Channel)
  /-- A number that no channel or process has. -/
  next : Nat := 100
  /-- What was done so far, last first. -/
  deeds : List Deed := []
  documents : Array Word := #[]
  jobs : List Job := []
  /-- Signals to shells that wait for others, each with the number of its shell, last first. -/
  pending : List (Nat × Nat) := []
  session : Session

/-- Why the commands of a script do not go on. -/
inductive Flow where
  /-- The shell ends. -/
  | leave (status : Nat)
  /-- An error ends the shell, unless one of its own commands is at fault. -/
  | fault
  /-- A process ends by a signal: the shell with this number. -/
  | killed (number signal : Nat)
  | back (status : Nat)
  /-- End this round of a loop, after ending some loops inside it; go on with the next round or
  not. -/
  | skip (loops : Nat) (next : Bool)
  | stuck

/-- The status of a command that wrote where nobody reads any more. -/
def brokenPipeStatus : Nat := 141

/-- A step of a script. -/
abbrev Act := ExceptT Flow (StateM World)

/-- Change what the shell knows. -/
def changeSession (change : Session → Session) : Act Unit :=
  modify fun world => { world with session := change world.session }

/-- Set the status of the last command. -/
def setStatus (status : Nat) : Act Unit :=
  changeSession fun session => { session with status := status }

/-- Entries with one changed or added. -/
def withEntry {α : Type} [BEq α] {β : Type} (key : α) (value : β) (entries : List (α × β)) :
    List (α × β) :=
  (key, value) :: entries.filter fun entry => entry.1 != key

/-- Entries without one. -/
def withoutEntry {α : Type} [BEq α] {β : Type} (key : α) (entries : List (α × β)) :
    List (α × β) :=
  entries.filter fun entry => entry.1 != key

/-- Do something that can be seen from outside. -/
def perform (deed : Deed) : Act Unit :=
  modify fun world => { world with deeds := deed :: world.deeds }

/-- A number that is not in use. -/
def freshNumber : Act Nat := do
  let world ← get
  set { world with next := world.next + 1 }
  return world.next

/-- The files as the shell sees them. -/
def files : Act Files := do
  let world ← get
  return ⟨world.root, world.session.directory⟩

/-- What the system says of an error. -/
def reasonOf (error : SystemError) : Bytes :=
  bytes <| match error with
  | .notFound => "No such file or directory"
  | .permissionDenied => "Permission denied"
  | .notDirectory => "Not a directory"
  | .isDirectory => "Is a directory"
  | .tooManyLinks => "Too many levels of symbolic links"
  | .nameTooLong => "File name too long"
  | .notProgram => "Exec format error"
  | .argumentsTooLong => "Argument list too long"
  | error => error.message

/-! ## Channels -/

/-- The bytes of a file's content. -/
def bytesOf (content : ByteArray) : Bytes :=
  content.toList.map fun byte => Char.ofNat byte.toNat

/-- A file's content. -/
def contentOf (content : Bytes) : ByteArray :=
  ⟨(numbers content).toArray⟩

/-- What reading a node gives. -/
def supplyOf : Node → Except SystemError Supply
  | .file content _ => .ok { content := bytesOf content }
  | .program _ => .ok {}
  | .device gives => .ok { cycle := gives.toList.map fun byte => Char.ofNat byte.toNat }
  | .directory _ => .error .isDirectory

/-- The number of the channel that a stream leads to, and the channel. -/
def channelOf? (stream : Nat) : Act (Option (Nat × Channel)) := do
  let world ← get
  return do
    let number ← world.session.streams.lookup stream
    return (number, ← world.channels.lookup number)

/-- Change a channel. -/
def setChannel (number : Nat) (channel : Channel) : Act Unit :=
  modify fun world => { world with channels := withEntry number channel world.channels }

/-- A new channel, by its number. -/
def openChannel (channel : Channel) : Act Nat := do
  let number ← freshNumber
  modify fun world => { world with channels := (number, channel) :: world.channels }
  return number

/-- A file's content with bytes put over it at some place. -/
def patched (content : ByteArray) (offset : Nat) (new : Bytes) : ByteArray :=
  let new := contentOf new
  let gap : ByteArray := ⟨Array.replicate (offset - content.size) 0⟩
  content.extract 0 offset ++ gap ++ new ++ content.extract (offset + new.size) content.size

/-- Write to a stream; whether that was possible. -/
def writeTo (stream : Nat) (content : Bytes) : Act Bool := do
  match ← channelOf? stream with
  | some (_, .output outer) =>
    unless content.isEmpty do perform (.write outer (numbers content))
    return true
  | some (number, .gathered before) =>
    if before.isEndless then return false
    setChannel number (.gathered { content := content.reverseAux before.content })
    return true
  | some (number, .file place offset reads true appends) =>
    let world ← get
    match world.root.get? place with
    | some (.file before executable) =>
      let start := if appends then before.size else offset
      set { world with
        root := Node.insert (.file (patched before start content) executable) world.root place }
      setChannel number (.file place (start + content.length) reads true appends)
    | _ => pure ()
    return true
  | some (_, .device _) => return true
  | _ => return false

/-- Write without end to standard output. Only a command that reads it, and ends, can bring this to
its end. -/
def writeForever (cycle : Bytes) : Act Unit := do
  match ← channelOf? 1 with
  | some (number, .gathered before) =>
    unless before.isEndless do setChannel number (.gathered { before with cycle })
    setStatus brokenPipeStatus
  | some _ => throw .stuck
  | none => setStatus 1

/-- What is left to be read from a stream, and the taking of so many bytes of it, or of all. -/
def takeFrom (stream : Nat) (count : Supply → Option Nat) : Act (Option Supply) := do
  match ← channelOf? stream with
  | some (number, .input supply) =>
    let taken := count supply
    perform (.read taken)
    setChannel number (.input ((taken.map supply.drop).getD {}))
    return some supply
  | some (number, .supply supply) =>
    setChannel number (.supply (((count supply).map supply.drop).getD {}))
    return some supply
  | some (number, .file place offset true writes appends) =>
    let content := match (← get).root.get? place with
      | some (.file content _) => bytesOf (content.extract offset content.size)
      | _ => []
    let taken := ((count { content }).map fun taken => min taken content.length).getD content.length
    setChannel number (.file place (offset + taken) true writes appends)
    return some { content }
  | some (_, .device gives) =>
    return some { cycle := gives.toList.map fun byte => Char.ofNat byte.toNat }
  | _ => return none

/-- The stream that a path is a name of. -/
def streamOfPath? (path : Bytes) : Option Nat :=
  let number (name : String) : Option Nat :=
    let text := path.drop name.length
    if name.toList.isPrefixOf path && !text.isEmpty && text.all Char.isDigit then
      some (naturalOf text)
    else none
  match String.ofList path with
  | "/dev/stdin" => some 0
  | "/dev/stdout" => some 1
  | "/dev/stderr" => some 2
  | _ => (number "/dev/fd/").or (number "/proc/self/fd/")

/-- The content of a file, or what a stream gives that the path is a name of. -/
def readFile (path : Bytes) : Act (Except SystemError Supply) := do
  match streamOfPath? path with
  | some stream =>
    match ← takeFrom stream fun _ => none with
    | some supply => return .ok supply
    | none => return .error .notFound
  | none => return (← files).node (textOf path) >>= supplyOf

/-- All bytes of a supply. One that never ends keeps the script for ever. -/
def wholeOf (supply : Supply) : Act Bytes :=
  match supply.whole? with
  | some text => return text
  | none => throw .stuck

/-- The next line on standard input, and whether it is complete. -/
def takeLine : Act (Option (Bytes × Bool)) := do
  let size (supply : Supply) : Option Nat :=
    (supply.linesWithin? 1).map fun text =>
      min text.length ((text.takeWhile (· ≠ '\n')).length + 1)
  let isWhole (supply : Supply) : Bool :=
    match supply.linesWithin? 1 with
    | some text => text.contains '\n'
    | none => true
  let supply ← takeFrom 0 fun supply => if isWhole supply then size supply else none
  match supply with
  | none => return none
  | some supply =>
    match supply.linesWithin? 1 with
    | none => throw .stuck
    | some text => return some (text.takeWhile (· ≠ '\n'), text.contains '\n')

/-! ## Messages -/

/-- Say on standard error why something failed, as the shell says it. -/
def complain (message : Bytes) : Act Unit := do
  let session := (← get).session
  let place := session.zeroth ++ bytes ": " ++ digits session.line ++ bytes ": "
  let command := match session.running with
    | some name => name ++ bytes ": "
    | none => []
  let _ ← writeTo 2 (place ++ command ++ message ++ ['\n'])

/-- Complain and set the status. -/
def failWith (status : Nat) (message : Bytes) : Act Unit := do
  complain message
  setStatus status

/-- Complain about something that ends the shell, or at least its own command that is running. -/
def fault {α : Type} (message : Bytes) : Act α := do
  complain message
  setStatus 2
  throw .fault

/-- Write to standard output and set the status. -/
def answer (content : Bytes) (status : Nat) : Act Unit := do
  let written ← writeTo 1 content
  unless written || content.isEmpty do complain (bytes "I/O error")
  setStatus (if written || content.isEmpty then status else max status 1)

/-! ## Variables -/

/-- A variable. -/
def Session.entry (session : Session) (name : Bytes) : Variable :=
  (session.bindings.lookup name).getD {}

/-- The value of a variable. -/
def Session.value? (session : Session) (name : Bytes) : Option Bytes :=
  (session.entry name).value

/-- The options of a shell and their letters. Two of them can only be set by their names and have
something in place of a letter that nobody writes. -/
def optionNames : List (String × Char) :=
  [("errexit", 'e'), ("noglob", 'f'), ("ignoreeof", 'I'), ("interactive", 'i'), ("monitor", 'm'),
    ("noexec", 'n'), ("stdin", 's'), ("xtrace", 'x'), ("verbose", 'v'), ("vi", 'V'), ("emacs", 'E'),
    ("noclobber", 'C'), ("allexport", 'a'), ("notify", 'b'), ("nounset", 'u'), ("privileged", 'p'),
    ("nolog", '\x01'), ("debug", '\x02')]

/-- Whether an option is set. -/
def Session.has (session : Session) (option : Char) : Bool :=
  session.options.contains option

/-- What is left of the session once a variable has changed. -/
def Session.withVariable (session : Session) (name : Bytes) (entry : Variable) : Session :=
  let session := { session with bindings := withEntry name entry session.bindings }
  if name = bytes "OPTIND" then
    { session with position := max 1 (naturalOf (entry.value.getD [])), letter := 0 }
  else session

/-- Set a variable. -/
def setVariable (name value : Bytes) : Act Unit := do
  let session := (← get).session
  let before := session.entry name
  if before.readonly then fault (name ++ bytes ": is read only")
  changeSession fun session => session.withVariable name
    { before with value := some value, exported := before.exported || session.has 'a' }

/-- Change what the innermost function has put aside. -/
def changeFrame (change : Session → Frame → Frame) : Act Unit :=
  changeSession fun session =>
    match session.frames with
    | frame :: outer => { session with frames := change session frame :: outer }
    | [] => session

/-- Put a variable aside until the function that is running ends. -/
def putAside (name : Bytes) : Act Unit :=
  changeFrame fun session frame =>
    if frame.entries.any fun entry => entry.1 = name then frame
    else { frame with entries := (name, session.entry name) :: frame.entries }

/-- Put the options aside until the function that is running ends. -/
def putOptionsAside : Act Unit :=
  changeFrame fun session frame => { frame with options := frame.options.or (some session.options) }

/-- Begin to put variables aside. -/
def beginFrame : Act Unit :=
  changeSession fun session => { session with frames := {} :: session.frames }

/-- Give what was put aside back. -/
def endFrame : Act Unit :=
  changeSession fun session =>
    match session.frames with
    | frame :: outer =>
      let session := frame.entries.foldl
        (fun session entry => session.withVariable entry.1 entry.2) { session with frames := outer }
      { session with options := frame.options.getD session.options }
    | [] => session

/-- The bytes at which words are cut into fields. -/
def Session.separators (session : Session) : Bytes :=
  (session.value? (bytes "IFS")).getD [' ', '\t', '\n']

/-- The value of a parameter that is not one of the lists of all arguments. -/
def Session.parameter? (session : Session) (name : Bytes) : Option Bytes :=
  match name with
  | ['#'] => some (digits session.arguments.length)
  | ['?'] => some (digits session.status)
  | ['$'] => some (digits session.number)
  | ['!'] => session.background.map digits
  | ['-'] =>
    some ((optionNames.reverse.map Prod.snd).filter fun letter =>
      letter.isAlpha && session.has letter)
  | c :: _ =>
    if c.isDigit then
      match naturalOf name with
      | 0 => some session.zeroth
      | index + 1 => session.arguments[index]?
    else session.value? name
  | [] => none

end FlowCheck.Shell
