import FlowCheck.Shell.Expansion

/-!
# Redirections

Leading the streams of a command to files, to documents of the script, and to where other streams
lead. A redirection that is not possible is complained about and keeps its command from running.
-/

namespace FlowCheck.Shell

/-- Lead a stream to a channel, or nowhere. -/
def lead (stream : Nat) (channel : Option Nat) : Act Unit :=
  changeSession fun session =>
    { session with
      streams := match channel with
        | some channel => withEntry stream channel session.streams
        | none => withoutEntry stream session.streams }

/-- The streams to the outside that the shell can use. -/
def outerStreams : Act (List StreamName) := do
  let world ← get
  let channels := world.session.streams.filterMap fun entry => world.channels.lookup entry.2
  return channels.filterMap fun
    | .input _ => some .stdin
    | .output stream => some stream
    | _ => none

/-- Close the streams to the outside that the outermost shell cannot use any more. -/
def closeUnused : Act Unit := do
  if (← get).session.outermost then
    let used ← outerStreams
    for stream in [StreamName.stdin, .stdout, .stderr] do
      unless used.contains stream do perform (.close stream)

/-- Why a file cannot be opened, in words. -/
def openingReason (creates : Bool) (error : SystemError) : Bytes :=
  match error with
  | .notFound | .notDirectory => bytes (if creates then "Directory nonexistent" else "No such file")
  | error => reasonOf error

/-- The place at which a new file of some path would be. -/
def newPlace (files : Files) (path : String) : Except SystemError Place :=
  let above := (Path.parent? path).getD "/"
  match files.locate (if above.isEmpty then "." else above), Path.fileName? path with
  | .ok place, some name =>
    if longestName < name.utf8ByteSize then .error .nameTooLong
    else if (files.root.get? place).any Node.isDirectory then .ok (place ++ [name])
    else .error .notDirectory
  | .ok _, none => .error .isDirectory
  | .error error, _ => .error error

/-- Put a node at a place. -/
def putNode (place : Place) (node : Node) : Act Unit :=
  modify fun world => { world with root := Node.insert node world.root place }

/-- Open what a path leads to, unless it is a name of a stream. The channel comes back by its
number. -/
def openPath (creates : Bool) (path : Bytes) (act : Act (Except Bytes Channel)) :
    Act (Except Bytes Nat) := do
  match streamOfPath? path with
  | some stream =>
    match (← get).session.streams.lookup stream with
    | some channel => return .ok channel
    | none => return .error (openingReason creates .notFound)
  | none =>
    match ← act with
    | .ok channel => return .ok (← openChannel channel)
    | .error reason => return .error reason

/-- Open a file in order to write to it. It is made if it is missing. -/
def openForWriting (path : Bytes) (opening : Opening) (noClobber : Bool) :
    Act (Except Bytes Channel) := do
  let files ← files
  let text := textOf path
  let appends := opening = .appending
  let reads := opening = .readingAndWriting
  let keeps := appends || reads
  let channel (place : Place) : Channel := .file place 0 reads true appends
  match files.locate text with
  | .ok place =>
    match files.root.get? place with
    | some (.file _ executable) =>
      if noClobber && opening = .writing false then return .error (bytes "File exists")
      unless keeps do putNode place (.file ByteArray.empty executable)
      return .ok (channel place)
    | some (.device gives) => return .ok (.device gives)
    | some (.program _) => return .error (bytes "Text file busy")
    | _ => return .error (bytes "Is a directory")
  | .error .notFound =>
    if text.toList.getLast? = some '/' then return .error (bytes "Is a directory")
    match newPlace files text with
    | .ok place =>
      putNode place (.file ByteArray.empty false)
      return .ok (channel place)
    | .error error => return .error (openingReason true error)
  | .error error => return .error (openingReason true error)

/-- Open a file in order to read it. -/
def openForReading (path : Bytes) : Act (Except Bytes Channel) := do
  let files ← files
  match files.locate (textOf path) with
  | .ok place =>
    match files.root.get? place with
    | some (.device gives) => return .ok (.device gives)
    | _ => return .ok (.file place 0 true false false)
  | .error error => return .error (openingReason false error)

section

variable (run : Runner)

/-- Lead a stream as a redirection tells, and say whether that was possible. Whether the stream is
kept for later is told. -/
def redirect (keeps : Bool) : Redirection → Act Bool
  | .lead stream destination => do
    let refuse (message : Bytes) : Act Bool := do
      failWith 2 message
      return false
    match destination with
    | .document number =>
      let word := (← get).documents.getD number []
      let content ← expandText run .document word
      lead stream (some (← openChannel (.supply { content })))
      return true
    | .sameAs word =>
      let text ← expandText run .single word
      if text = ['-'] then
        lead stream none
        return true
      else if text.isEmpty || !text.all Char.isDigit then
        refuse (bytes "Syntax error: Bad fd number")
      else
        match (← get).session.streams.lookup (naturalOf text) with
        | some channel =>
          lead stream (some channel)
          return true
        | none =>
          -- A stream that is kept for later is closed by now.
          if keeps && stream = 2 then lead 2 none
          refuse (text ++ bytes ": Bad file descriptor")
    | .file opening word =>
      let path ← expandText run .single word
      let reads := opening = .reading
      let opened ←
        openPath (!reads) path
          (if reads then openForReading path
          else do openForWriting path opening ((← get).session.has 'C'))
      match opened with
      | .ok channel =>
        lead stream (some channel)
        return true
      | .error reason =>
        let act := if reads then "cannot open " else "cannot create "
        refuse (bytes act ++ path ++ bytes ": " ++ reason)

/-- Lead streams as redirections tell, one after the other, and say whether that was possible.
Whether the streams are kept for later is told. -/
def redirectAll (keeps : Bool) : List Redirection → Act Bool
  | [] => return true
  | redirection :: rest => do
    if ← redirect run keeps redirection then redirectAll keeps rest else return false

/-- Run something with the streams as they are, and put them back. -/
def keepingStreams {α : Type} (act : Act α) : Act α := do
  let streams := (← get).session.streams
  let restore : Act Unit := changeSession fun session => { session with streams := streams }
  let result ← tryCatch act fun flow => do
    restore
    throw flow
  restore
  return result

end

end FlowCheck.Shell
