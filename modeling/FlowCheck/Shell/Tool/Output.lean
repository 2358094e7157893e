import FlowCheck.Shell.Condition
import FlowCheck.Shell.Format
import FlowCheck.Shell.Filter

/-!
# Programs that write

Programs that write their arguments or the same again and again, that pass their input on to several
files, and those that only tell something by their status.
-/

namespace FlowCheck.Shell

/-! ## Texts -/

/-- A byte that hexadecimal digits write, and the text after them. -/
def leadingHexadecimal? (text : Bytes) : Option (Char × Bytes) :=
  let run := (text.take 2).takeWhile fun c => (digitValue? 16 c).isSome
  if run.isEmpty then none
  else some (Char.ofNat (leadingDigits 16 run).1, text.drop run.length)

/-- A text with its escapes replaced as the program `echo` does, and whether it goes on to the
end. -/
def unescapeWord : Nat → Bytes → Bytes → Bytes × Bool
  | 0, done, _ | _, done, [] => (done.reverse, true)
  | fuel + 1, done, '\\' :: rest =>
    match rest with
    | 'c' :: _ => (done.reverse, false)
    | 'x' :: text =>
      match leadingHexadecimal? text with
      | some (byte, after) => unescapeWord fuel (byte :: done) after
      | none => unescapeWord fuel ('x' :: '\\' :: done) text
    | '0' :: text =>
      let (byte, after) := leadingOctal 3 text
      unescapeWord fuel (byte :: done) after
    | rest =>
      let (content, after) := leadingEscape rest
      unescapeWord fuel (content ++ done) after
  | fuel + 1, done, c :: rest => unescapeWord fuel (c :: done) rest

/-- Whether a word is an option of the program `echo`. -/
def isEchoOption (word : Bytes) : Bool :=
  match word with
  | '-' :: c :: rest => (c :: rest).all fun c => c = 'n' || c = 'e' || c = 'E'
  | _ => false

/-- Write the arguments. -/
def echoProgram (arguments : List Bytes) : Act Nat := do
  let options := arguments.takeWhile isEchoOption
  let letters := options.flatMap List.tail
  let escapes := letters.reverse.find? (fun c => c = 'e' || c = 'E') = some 'e'
  let text := [' '].intercalate (arguments.drop options.length)
  let newline := if letters.contains 'n' then [] else ['\n']
  let (content, complete) :=
    if escapes then unescapeWord (text.length + 1) [] text else (text, true)
  put (if complete then content ++ newline else content)
  return 0

/-- Write arguments as a format asks. -/
def printfProgram (arguments : List Bytes) : Act Nat := do
  match if arguments.head? = some ['-', '-'] then arguments.tail else arguments with
  | [] => misused "printf" 1 (bytes "missing operand")
  | format :: arguments =>
    let result := formatted format arguments
    put result.done.reverse
    for complaint in result.complaints.reverse do complainAs "printf" complaint
    match result.broken with
    | some reason =>
      complainAs "printf" reason
      return 1
    | none => return if result.complaints.isEmpty then 0 else 1

/-- Write the arguments, each time in a line, without end. -/
def yes (arguments : List Bytes) : Act Nat := do
  let words := if arguments.head? = some ['-', '-'] then arguments.tail else arguments
  let words := if words.isEmpty then [['y']] else words
  writeForever ([' '].intercalate words ++ ['\n'])
  return (← get).session.status

/-! ## Several outputs -/

/-- The stream by which a program writes to a file that it has opened itself. -/
def ownStream : Nat := 90

/-- Write to a file, and tell whether it could be opened. -/
def writeFile (tool : String) (path : Bytes) (appends : Bool) (content : Bytes) : Act Bool := do
  let opening : Opening := if appends then .appending else .writing false
  match ← openPath true path (openForWriting path opening false) with
  | .ok channel =>
    keepingStreams do
      lead ownStream (some channel)
      let _ ← writeTo ownStream content
    return true
  | .error reason =>
    let reason := if reason = bytes "Directory nonexistent" then reasonOf .notFound else reason
    complainAs tool (path ++ bytes ": " ++ reason)
    return false

/-- Pass the input on to standard output and to files. -/
def tee (arguments : List Bytes) : Act Nat :=
  let table : OptionTable :=
    { letters := "aip", names := [("append", 'a'), ("ignore-interrupts", 'i')] }
  withOptions "tee" table arguments (fun options => do
    match ← takeInput fun _ => none with
    | .error error =>
      blameInput "tee" (bytes "standard input") error
      return 1
    | .ok supply =>
      let mut all := true
      for path in options.words do
        unless ← writeFile "tee" path (options.has 'a') supply.content do all := false
      put supply.content
      if supply.isEndless then writeForever supply.cycle
      return if all then 0 else 1) 1

/-! ## Answers -/

/-- Look at a condition. In brackets, the last argument closes them. -/
def testProgram (inBrackets : Bool) (arguments : List Bytes) : Act Nat := do
  let tool := if inBrackets then "[" else "test"
  if inBrackets && arguments.getLast? ≠ some [']'] then
    complainAs tool (bytes "missing ']'")
    return 2
  let words := if inBrackets then arguments.dropLast else arguments
  match holds (← files) (words.length + 1) words with
  | .ok true => return 0
  | .ok false => return 1
  | .error reason =>
    complainAs tool reason
    return 2

/-- Tell who is at work. -/
def tellUser (arguments : List Bytes) : Act Nat :=
  withOptions "id" { letters := "agGnruzZ" } arguments (fun options => do
    let one := ['u', 'g', 'G'].any options.has
    let text := if one then (if options.has 'n' then "root" else "0")
      else "uid=0(root) gid=0(root) groups=0(root)"
    put (bytes text ++ ['\n'])
    return 0) 1

/-- Tell the name of who is at work. -/
def tellUserName (arguments : List Bytes) : Act Nat := do
  match arguments with
  | [] =>
    put (bytes "root\n")
    return 0
  | word :: _ => misused "whoami" 1 (bytes "extra operand " ++ inQuotes word)

/-- Tell whether the input is a terminal: it never is. -/
def tellTerminal (arguments : List Bytes) : Act Nat := do
  unless arguments.contains ['-', 's'] do put (bytes "not a tty\n")
  return 1

end FlowCheck.Shell
