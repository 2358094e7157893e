import FlowCheck.Files.Tree

/-!
# Programs

What name leads to which program. There are two answers: the one that is shown, which looks for a
file from the current directory, and the one that the system gives when the program is started,
which follows the name from the directory of the run and passes over files that may not be executed.
-/

namespace FlowCheck

/-- A program of the system that can be started, and how. -/
structure Invocation where
  /-- The path of the file that was started. -/
  file : String
  /-- The name of the program that runs: of the file itself, or of the interpreter that it names. -/
  program : String
  /-- What the program is given, its own name first. -/
  arguments : List String
  deriving Repr, DecidableEq

/-- The search path when there is none. -/
def standardSearchPath : String := "/bin:/usr/bin"

/-- The directories of a search path, which are separated by colons. -/
def searchDirectories (searchPath : String) : List String :=
  (searchPath.toList.splitOn ':').map String.ofList

/-- How many interpreters one may be started through. -/
def interpreterLimit : Nat := 5

/-- How long an argument may be, in bytes. -/
def argumentLimit : Nat := 131071

/-- How many bytes of a file are looked at in order to tell how it is started. -/
def startBlock : Nat := 256

/-- Whether a byte parts the words of an interpreter's line. -/
def isLineBlank (c : Char) : Bool :=
  c = ' ' || c = '\t'

/-- The line behind the sign of a script, without the blanks at its end. The block is filled up with
zero bytes. A line that is cut off loses the last byte of the block and has to show where the name
of the interpreter ends: at a blank or a zero byte. -/
def scriptLine? (block : List Char) : Option (List Char) :=
  let trimmed (line : List Char) : List Char := (line.reverse.dropWhile isLineBlank).reverse
  let line := block.takeWhile fun c => c ≠ '\n' && c ≠ '\x00'
  if block[line.length]? = some '\n' then some (trimmed line)
  else
    let name := block.dropWhile isLineBlank
    if name.any fun c => isLineBlank c || c = '\x00' then some (trimmed block.dropLast) else none

/-- The interpreter that the beginning of a script names, and the argument for it. All that follows
the name is one argument; a zero byte ends the name and the argument. -/
def interpreterLine? (content : ByteArray) : Option (String × Option String) :=
  let bytes := (content.toList.take startBlock).map fun byte => Char.ofNat byte.toNat
  match bytes ++ List.replicate (startBlock - bytes.length) '\x00' with
  | '#' :: '!' :: rest => do
    let line := (← scriptLine? rest).dropWhile isLineBlank
    if line.isEmpty then none
    let name := line.takeWhile fun c => !isLineBlank c && c ≠ '\x00'
    let text (chars : List Char) : String :=
      let bytes : ByteArray := ⟨(chars.map fun c => UInt8.ofNat c.toNat).toArray⟩
      (String.fromUTF8? bytes).getD (String.ofList chars)
    let argument := match line.drop name.length with
      | [] | '\x00' :: _ => none
      | after =>
        match after.dropWhile isLineBlank with
        | [] => none
        | argument => some (text (argument.takeWhile (· ≠ '\x00')))
    return (text name, argument)
  | _ => none

namespace Files

/-- The path that is shown for a program: a name of several steps as it is, if it leads anywhere,
and otherwise the first file of that name on the search path. -/
def showProgram? (files : Files) (searchPath : Option String) (name : String) : Option String :=
  if 1 < Path.stepCount name then
    if files.has name then some name else none
  else do
    let candidates := (searchDirectories (← searchPath)).map fun directory =>
      Path.join directory name
    candidates.find? files.hasFile

/-- Start what a path leads to, through as many interpreters as the limit allows. -/
def invoke (files : Files) : Nat → String → String → List String → Except SystemError Invocation
  | 0, _, _, _ => .error .tooManyLinks
  | limit + 1, path, zeroth, arguments => do
    match ← files.node path with
    | .program name => return ⟨path, name, zeroth :: arguments⟩
    | .file content true =>
      match interpreterLine? content with
      | none => throw .notProgram
      | some (interpreter, argument) =>
        if interpreter.isEmpty then throw .permissionDenied
        let started ← files.invoke limit interpreter interpreter
          (argument.toList ++ path :: arguments)
        return { started with file := path }
    | _ => throw .permissionDenied

/-- Try the candidates for a program one after the other. What is missing or may not be executed is
passed over, but the latter is remembered. -/
def invokeFirst (files : Files) (name : String) (arguments : List String) :
    List String → SystemError → Except SystemError Invocation
  | [], cause => .error cause
  | path :: rest, cause =>
    match files.invoke interpreterLimit path name arguments with
    | .ok started => .ok started
    | .error problem =>
      if problem ∈ [.notFound, .notDirectory, .permissionDenied] then
        files.invokeFirst name arguments rest
          (if cause = .permissionDenied then cause else problem)
      else .error problem

/-- Start a program by its name from the directory of the run. -/
def start (files : Files) (searchPath : Option String) (name : String) (arguments : List String) :
    Except SystemError Invocation := do
  if (name :: arguments).any fun text => text.toList.contains '\x00' then throw .nulInArgument
  if (name :: arguments).any fun text => decide (argumentLimit < text.utf8ByteSize) then
    throw .argumentsTooLong
  if name.isEmpty then throw .notFound
  if name.toList.contains '/' then files.invoke interpreterLimit name name arguments
  else
    files.invokeFirst name arguments
      ((searchDirectories (searchPath.getD standardSearchPath)).map fun directory =>
        if directory.isEmpty then name else directory ++ "/" ++ name)
      .notFound

end Files

end FlowCheck
