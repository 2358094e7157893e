import FlowCheck.Shell.Condition
import FlowCheck.Shell.Format
import FlowCheck.Shell.Redirect
import FlowCheck.Shell.Signal

/-!
# The shell's own commands

The commands that a shell carries out itself because they look at it or change it. Each gives its
status. Those that run other commands in turn are not among them.
-/

namespace FlowCheck.Shell

/-- The commands of a shell that are not treated in a way of their own. -/
def ordinaryNames : List String :=
  ["[", "alias", "bg", "cd", "chdir", "command", "echo", "false", "fg", "getopts", "hash", "jobs",
    "kill", "printf", "pwd", "read", "test", "true", "type", "ulimit", "umask", "unalias", "wait"]

/-- Whether a name is that of a command of the shell that ends the shell when it fails. -/
def isSpecial (name : Bytes) : Bool :=
  (specialNames ++ ["local"]).contains (String.ofList name)

/-- Whether a name is that of a command of the shell. -/
def isBuiltin (name : Bytes) : Bool :=
  isSpecial name || ordinaryNames.contains (String.ofList name)

/-- The letters of the options in front of some words, and the words behind them. -/
def takeOptions (allowed : List Char) : List Bytes → Act (Letters × List Bytes)
  | ['-', '-'] :: rest => return ([], rest)
  | ('-' :: c :: letters) :: rest => do
    match (c :: letters).find? fun letter => !allowed.contains letter with
    | some letter => fault (bytes "Illegal option -" ++ [letter])
    | none =>
      let (more, words) ← takeOptions allowed rest
      return (c :: letters ++ more, words)
  | words => return ([], words)

/-- A text in single quotes, so that a shell reads it as it is. -/
def singleQuoted (text : Bytes) : Bytes :=
  if text.isEmpty then ['\'', '\'']
  else quoteFrom (text.length + 1) text
where
  /-- Runs of quotes stand in double quotes, everything else in single ones. -/
  quoteFrom : Nat → Bytes → Bytes
    | 0, _ | _, [] => []
    | fuel + 1, text =>
      let plain := text.takeWhile (· ≠ '\'')
      let rest := text.drop plain.length
      let quotes := rest.takeWhile (· = '\'')
      let first := if plain.isEmpty then [] else '\'' :: plain ++ ['\'']
      let second := if quotes.isEmpty then [] else '"' :: quotes ++ ['"']
      first ++ second ++ quoteFrom fuel (rest.drop quotes.length)

/-- A word as a number that is not negative. -/
def numberArgument (word : Bytes) : Act Nat := do
  match integer? word with
  | some value =>
    if 0 ≤ value ∧ value ≤ 0x7fffffff then return value.toNat
    else fault (bytes "Illegal number: " ++ word)
  | none => fault (bytes "Illegal number: " ++ word)

/-- The number that some words begin with, or another one. -/
def numberOr (words : List Bytes) (default : Nat) : Act Nat :=
  match words with
  | [] => return default
  | word :: _ => numberArgument word

/-! ## Variables and options -/

/-- Set or unset an option. -/
def setOption (set : Bool) (letter : Char) : Act Unit :=
  changeSession fun session =>
    let others := session.options.filter (· ≠ letter)
    { session with options := if set then letter :: others else others }

/-- Set options by their letters. -/
def setLetters (set : Bool) (letters : Letters) : Act Unit := do
  for letter in letters do
    if letter.isAlpha && optionNames.any fun entry => entry.2 = letter then setOption set letter
    else fault (bytes "Illegal option -" ++ [letter])

/-- Set options as words tell; the words behind them come back, and whether they are arguments even
if there are none. -/
def setOptions : List Bytes → Act (Bool × List Bytes)
  | ['-', '-'] :: rest => return (true, rest)
  | ['-'] :: rest => do
    setLetters false ['x', 'v']
    return (!rest.isEmpty, rest)
  | [sign, 'o'] :: name :: rest => do
    if sign = '-' || sign = '+' then
      match optionNames.lookup (String.ofList name) with
      | some letter =>
        setOption (sign = '-') letter
        setOptions rest
      | none => fault (bytes "Illegal option " ++ [sign] ++ bytes "o " ++ name)
    else return (true, [sign, 'o'] :: name :: rest)
  | ('-' :: c :: letters) :: rest => do
    setLetters true (c :: letters)
    setOptions rest
  | ('+' :: letters) :: rest => do
    setLetters false letters
    setOptions rest
  | words => return (!words.isEmpty, words)

/-- Entries in the order of their names. -/
def sortedEntries {α : Type} (entries : List (Bytes × α)) : List (Bytes × α) :=
  entries.mergeSort fun a b => bytesLe a.1 b.1

/-- Variables as assignments, a line each. -/
def shownVariables (lead : String) (entries : List (Bytes × Variable)) : Bytes :=
  (sortedEntries entries).flatMap fun (name, entry) =>
    let value := match entry.value with
      | some value => '=' :: singleQuoted value
      | none => []
    bytes lead ++ name ++ value ++ ['\n']

/-- Carry out `set`. -/
def runSet (arguments : List Bytes) : Act Nat := do
  if arguments.isEmpty then
    let shown := (← get).session.bindings.filter fun entry => entry.2.value.isSome
    answer (shownVariables "" shown) 0
  else if arguments = [['-', 'o']] then
    let session := (← get).session
    let lines := optionNames.map fun (name, letter) =>
      let state := if session.has letter then "on" else "off"
      bytes name ++ List.replicate (16 - name.length) ' ' ++ bytes state ++ ['\n']
    answer (bytes "Current option settings\n" ++ lines.flatten) 0
  else if arguments = [['+', 'o']] then
    let session := (← get).session
    answer (optionNames.flatMap fun (name, letter) =>
      bytes "set " ++ [if session.has letter then '-' else '+'] ++ bytes s!"o {name}\n") 0
  else
    let (given, words) ← setOptions arguments
    if given then
      changeSession fun session =>
        { session with arguments := words, position := 1, letter := 0 }
    setStatus 0
  return (← get).session.status

/-- Refuse what is no name of a variable. -/
def demandName (name : Bytes) : Act Unit := do
  unless isName name do fault (name ++ bytes ": bad variable name")

/-- Mark variables, which may be assigned to at the same time. -/
def markVariables (lead : String) (isMarked : Variable → Bool) (mark : Variable → Variable)
    (arguments : List Bytes) : Act Nat := do
  let (letters, words) ← takeOptions ['p'] arguments
  if words.isEmpty || letters.contains 'p' then
    let shown := (← get).session.bindings.filter fun entry => isMarked entry.2
    answer (shownVariables lead shown) 0
    return 0
  else
    for word in words do
      let name := word.takeWhile (· ≠ '=')
      demandName name
      if name.length < word.length then setVariable name (word.drop (name.length + 1))
      changeSession fun session => session.withVariable name (mark (session.entry name))
    return 0

/-- Carry out `local`. -/
def runLocal (arguments : List Bytes) : Act Nat := do
  if (← get).session.frames.isEmpty || (← get).session.calls = 0 then
    fault (bytes "not in a function")
  for word in arguments do
    if word = ['-'] then
      putOptionsAside
      continue
    let name := word.takeWhile (· ≠ '=')
    demandName name
    putAside name
    if name.length < word.length then setVariable name (word.drop (name.length + 1))
  return 0

/-- Carry out `unset`. -/
def runUnset (arguments : List Bytes) : Act Nat := do
  let (letters, names) ← takeOptions ['v', 'f'] arguments
  for name in names do
    if letters.contains 'f' then
      changeSession fun session =>
        { session with functions := withoutEntry name session.functions }
    else
      demandName name
      let entry := (← get).session.entry name
      if entry.readonly then fault (name ++ bytes ": is read only")
      changeSession fun session =>
        { session.withVariable name {} with bindings := withoutEntry name session.bindings }
  return 0

/-- Carry out `shift`. -/
def runShift (arguments : List Bytes) : Act Nat := do
  let count ← numberOr arguments 1
  let session := (← get).session
  if session.arguments.length < count then fault (bytes "can't shift that many")
  changeSession fun session =>
    { session with arguments := session.arguments.drop count, position := 1, letter := 0 }
  return 0

/-! ## Aliases and names -/

/-- An alias as it is shown. -/
def shownAlias (name value : Bytes) : Bytes :=
  name ++ '=' :: singleQuoted value ++ ['\n']

/-- Carry out `alias`. -/
def runAlias (arguments : List Bytes) : Act Nat := do
  if arguments.isEmpty then
    answer ((← get).session.aliases.flatMap fun entry => shownAlias entry.1 entry.2) 0
    return 0
  else
    let mut status := 0
    for word in arguments do
      let name := word.takeWhile (· ≠ '=')
      if name.length < word.length && !name.isEmpty then
        changeSession fun session =>
          { session with
            aliases := withEntry name (word.drop (name.length + 1)) session.aliases }
      else
        match (← get).session.aliases.lookup word with
        | some value => answer (shownAlias word value) 0
        | none =>
          let _ ← writeTo 2 (bytes "alias: " ++ word ++ bytes " not found\n")
          status := 1
    return status

/-- Carry out `unalias`. -/
def runUnalias (arguments : List Bytes) : Act Nat := do
  let (letters, names) ← takeOptions ['a'] arguments
  if letters.contains 'a' then
    changeSession fun session => { session with aliases := [] }
    return 0
  else
    let mut status := 0
    for name in names do
      if ((← get).session.aliases.lookup name).isSome then
        changeSession fun session => { session with aliases := withoutEntry name session.aliases }
      else
        let _ ← writeTo 2 (bytes "unalias: " ++ name ++ bytes " not found\n")
        status := 1
    return status

/-- The file that a name starts, or why it starts none. Without a search path, only a name with a
slash starts anything. -/
def programFile (name : Bytes) : Act (Except SystemError Bytes) := do
  let session := (← get).session
  let searchPath := (session.value? (bytes "PATH")).map textOf
  if searchPath.isNone && !name.contains '/' then return .error .notFound
  match (← files).start searchPath (textOf name) [] with
  | .ok started => return .ok (bytes started.file)
  | .error error => return .error error

/-- What is said of a program that cannot be started. -/
def startingReason (error : SystemError) : Bytes :=
  match error with
  | .notFound | .notDirectory => bytes "not found"
  | error => reasonOf error

/-- Say what a name means to the shell: in words, or so that it can be used again. -/
def describeName (inWords : Bool) (name : Bytes) : Act Nat := do
  let session := (← get).session
  let tell (reusable : Bytes) (words : String) : Act Nat := do
    answer ((if inWords then name ++ bytes words else reusable) ++ ['\n']) 0
    return 0
  if keywords.contains (String.ofList name) then tell name " is a shell keyword"
  else
    match session.aliases.lookup name with
    | some value =>
      let shown := if inWords then name ++ bytes " is an alias for " ++ value ++ ['\n']
        else bytes "alias " ++ shownAlias name value
      answer shown 0
      return 0
    | none =>
      if (session.functions.lookup name).isSome then tell name " is a shell function"
      else if isSpecial name then tell name " is a special shell builtin"
      else if isBuiltin name then tell name " is a shell builtin"
      else
        match ← programFile name with
        | .ok path =>
          answer ((if inWords then name ++ bytes " is " else []) ++ path ++ ['\n']) 0
          return 0
        | .error _ =>
          if inWords then answer (name ++ bytes ": not found\n") 127
          return 127

/-- Carry out `type`. -/
def runType (arguments : List Bytes) : Act Nat := do
  let mut status := 0
  for name in arguments do
    let last ← describeName true name
    status := max status last
  return status

/-- Carry out `hash`. -/
def runHash (arguments : List Bytes) : Act Nat := do
  let (_, names) ← takeOptions ['r', 'v'] arguments
  let mut status := 0
  for name in names do
    let known := isBuiltin name || ((← get).session.functions.lookup name).isSome
    unless known do
      if let .error error := ← programFile name then
        complain (name ++ bytes ": " ++ startingReason error)
        status := 1
  return status

/-! ## Directories -/

/-- Carry out `cd`. -/
def runCd (arguments : List Bytes) : Act Nat := do
  let (_, words) ← takeOptions ['L', 'P'] arguments
  let session := (← get).session
  let (path, shows) := match words with
    | [] => ((session.value? (bytes "HOME")).getD [], false)
    | ['-'] :: _ => ((session.value? (bytes "OLDPWD")).getD [], true)
    | path :: _ => (path, false)
  let files ← files
  let place := files.locate (textOf (if path.isEmpty then ['.'] else path))
  match place with
  | .ok place =>
    if !(files.root.get? place).any Node.isDirectory then
      fault (bytes "can't cd to " ++ path)
    setVariable (bytes "OLDPWD") (bytes session.directory.path)
    setVariable (bytes "PWD") (bytes place.path)
    changeSession fun session => { session with directory := place }
    if shows then answer (bytes place.path ++ ['\n']) 0
    return 0
  | .error _ => fault (bytes "can't cd to " ++ path)

/-- The three octal digits of a mask, in front of which there is a zero. -/
def maskDigits (mask : Nat) : Bytes :=
  digitsOf 4 (naturalOf (Nat.toDigits 8 mask))

/-- What a mask leaves to one kind of user. -/
def maskLetters (bits : Nat) : Bytes :=
  (if bits / 4 % 2 = 0 then ['r'] else []) ++ (if bits / 2 % 2 = 0 then ['w'] else []) ++
    (if bits % 2 = 0 then ['x'] else [])

/-- A mask changed by one clause of a symbolic one. -/
def maskClause? (mask : Nat) (clause : Bytes) : Option Nat := do
  let who := clause.takeWhile fun c => ['u', 'g', 'o', 'a'].contains c
  let sign :: letters := clause.drop who.length | none
  if !(['=', '+', '-'].contains sign) then none
  let bits ← letters.foldlM (fun bits c => match c with
    | 'r' => some (bits ||| 4)
    | 'w' => some (bits ||| 2)
    | 'x' => some (bits ||| 1)
    | _ => none) 0
  let who := if who.isEmpty || who.contains 'a' then ['u', 'g', 'o'] else who
  return who.foldl (fun mask user =>
    let shift := if user = 'u' then 64 else if user = 'g' then 8 else 1
    let old := mask / shift % 8
    let new := if sign = '=' then 7 - bits else if sign = '+' then old &&& (7 - bits)
      else old ||| bits
    mask - old * shift + new * shift) mask

/-- Carry out `umask`. -/
def runUmask (arguments : List Bytes) : Act Nat := do
  let (letters, words) ← takeOptions ['S'] arguments
  let mask := (← get).session.mask
  match words with
  | [] =>
    if letters.contains 'S' then
      answer (bytes "u=" ++ maskLetters (mask / 64 % 8) ++ bytes ",g=" ++
        maskLetters (mask / 8 % 8) ++ bytes ",o=" ++ maskLetters (mask % 8) ++ ['\n']) 0
    else answer (maskDigits mask ++ ['\n']) 0
    return 0
  | word :: _ =>
    let change (mask : Nat) : Act Nat := do
      changeSession fun session => { session with mask := mask % 512 }
      return 0
    if word.head?.any Char.isDigit then
      if word.all fun c => '0' ≤ c && c ≤ '7' then change (leadingDigits 8 word).1
      else fault (bytes "Illegal number: " ++ word)
    else
      match (String.ofList word).splitOn "," |>.foldlM
        (fun mask clause => maskClause? mask clause.toList) mask with
      | some mask => change mask
      | none => fault (bytes "Illegal mode: " ++ word)

/-! ## Input -/

/-- The rest of a line whose bytes are quoted or not, cut into the fields of so many variables. -/
def readFields (separators : Bytes) : Nat → Marked → List Bytes
  | 0, _ => []
  | count + 1, line =>
    let isBlank (c : Char) : Bool :=
      (c = ' ' || c = '\t' || c = '\n') && separators.contains c
    let cuts (entry : Char × Bool) : Bool := !entry.2 && separators.contains entry.1
    let blank (entry : Char × Bool) : Bool := !entry.2 && isBlank entry.1
    let line := line.dropWhile blank
    let field := line.takeWhile fun entry => !cuts entry
    let after := (line.drop field.length).dropWhile blank
    let after := match after with
      | entry :: rest => if cuts entry then rest.dropWhile blank else after
      | [] => []
    if count = 0 then
      -- The last variable takes all that is left, unless that is one field.
      if after.isEmpty then [field.map Prod.fst]
      else [((line.reverse.dropWhile blank).reverse).map Prod.fst]
    else field.map Prod.fst :: readFields separators count after

/-- A line in which a backslash quotes what follows it. -/
def quotedLine : Bytes → Marked
  | '\\' :: c :: rest => (c, true) :: quotedLine rest
  | '\\' :: [] => []
  | c :: rest => (c, false) :: quotedLine rest
  | [] => []

/-- A line of the input, whose end a backslash may take away. -/
def takeLongLine (raw : Bool) : Nat → Act (Option (Bytes × Bool))
  | 0 => throw .stuck
  | fuel + 1 => do
    match ← takeLine with
    | none => return none
    | some (line, complete) =>
      let joins := !raw && complete && (line.reverse.takeWhile (· = '\\')).length % 2 = 1
      if joins then
        match ← takeLongLine raw fuel with
        | some (more, complete) => return some (line.dropLast ++ more, complete)
        | none => return some (line.dropLast, false)
      else return some (line, complete)

/-- Carry out `read`. -/
def runRead (arguments : List Bytes) : Act Nat := do
  let (letters, words) ← takeOptions ['r', 'p'] arguments
  let names := if letters.contains 'p' then words.drop 1 else words
  if names.isEmpty then fault (bytes "arg count")
  for name in names do demandName name
  let raw := letters.contains 'r'
  let (line, complete) := (← takeLongLine raw roundLimit).getD ([], false)
  let marked := if raw then line.map fun c => (c, false) else quotedLine line
  let marked := marked.filter fun entry => entry.1 ≠ '\x00'
  let fields := readFields (← get).session.separators names.length marked
  for (name, field) in names.zip fields do setVariable name field
  return if complete then 0 else 1
where
  /-- How many lines may be joined. -/
  roundLimit : Nat := 100000

/-- What reading the letters of arguments comes to. -/
structure LetterStep where
  found : Char
  argument : Option Bytes := none
  complaint : Option String := none
  /-- Which argument comes next, and how far the one before it has been read. -/
  position : Nat
  letter : Nat
  ended : Bool := false

/-- The next letter of some arguments, given the letters that there are; one that takes an argument
has a colon behind it. -/
def nextLetter (allowed : Bytes) (words : List Bytes) (position letter : Nat) : LetterStep :=
  let current := if position ≤ 1 || letter = 0 then [] else
    ((words[position - 2]?).getD []).drop letter
  let start : Option (Bytes × Nat × Nat) :=
    if !current.isEmpty then some (current, position, letter)
    else match words[position - 1]? with
      | some ('-' :: c :: rest) => some (c :: rest, position + 1, 1)
      | _ => none
  match start with
  | none => ⟨'?', none, none, position, 0, true⟩
  | some (['-'], position, 1) => ⟨'?', none, none, position, 0, true⟩
  | some ([], position, _) => ⟨'?', none, none, position, 0, true⟩
  | some (c :: rest, position, letter) =>
    let silent := allowed.head? = some ':'
    let after := match (if silent then allowed.drop 1 else allowed).dropWhile (· ≠ c) with
      | _ :: after => some after
      | [] => none
    let letterAfter := if rest.isEmpty then 0 else letter + 1
    match if c = ':' then none else after with
    | none =>
      if silent then ⟨'?', some [c], none, position, letterAfter, false⟩
      else ⟨'?', none, some s!"Illegal option -{c}", position, letterAfter, false⟩
    | some (':' :: _) =>
      if !rest.isEmpty then ⟨c, some rest, none, position, 0, false⟩
      else
        match words[position - 1]? with
        | some argument => ⟨c, some argument, none, position + 1, 0, false⟩
        | none =>
          if silent then ⟨':', some [c], none, position, 0, false⟩
          else ⟨'?', none, some s!"No arg for -{c} option", position, 0, false⟩
    | some _ => ⟨c, some [], none, position, letterAfter, false⟩

/-- Carry out `getopts`. -/
def runGetopts (arguments : List Bytes) : Act Nat := do
  let (_, words) ← takeOptions [] arguments
  match words with
  | allowed :: name :: given =>
    let session := (← get).session
    let subject := if given.isEmpty then session.arguments else given
    let (position, letter) :=
      if subject.length + 1 < session.position then (1, 0)
      else (session.position, session.letter)
    let step := nextLetter allowed subject position letter
    if let some complaint := step.complaint then
      let _ ← writeTo 2 (bytes complaint ++ ['\n'])
    match step.argument with
    | some argument => setVariable (bytes "OPTARG") argument
    | none =>
      unless step.ended do
        changeSession fun session =>
          { session with bindings := withoutEntry (bytes "OPTARG") session.bindings }
    setVariable (bytes "OPTIND") (digits step.position)
    changeSession fun session =>
      { session with position := step.position, letter := step.letter }
    demandName name
    setVariable name [step.found]
    return if step.ended then 1 else 0
  | _ => fault (bytes "Usage: getopts optstring var [arg...]")

/-! ## Signals and processes -/

/-- Carry out `trap`. -/
def runTrap (arguments : List Bytes) : Act Nat := do
  let (_, words) ← takeOptions [] arguments
  let session := (← get).session
  match words with
  | [] =>
    let traps := session.traps.mergeSort fun a b => a.1 ≤ b.1
    answer (traps.flatMap fun (signal, script) =>
      bytes "trap -- " ++ singleQuoted script ++ ' ' ::
        bytes ((signalName? signal).getD "") ++ ['\n']) 0
    return 0
  | first :: rest =>
    let isReset := rest.isEmpty || (first.head?.any Char.isDigit && first.all Char.isDigit)
    let action := if isReset || first = ['-'] then none else some first
    let mut status := 0
    for name in if isReset then words else rest do
      match signalNumber? name with
      | none =>
        let _ ← writeTo 2 (bytes "trap: " ++ name ++ bytes ": bad trap\n")
        status := 1
      | some signal =>
        if status = 0 then
          changeSession fun session =>
            { session with
              traps := match action with
                | some script => withEntry signal script session.traps
                | none => withoutEntry signal session.traps }
    return status

/-- What `kill` is to do. -/
structure KillOrder where
  lists : Bool := false
  signal : Option Nat := none
  targets : List Bytes

/-- What the words of `kill` order. -/
def killOrder (words : List Bytes) : Act KillOrder := do
  match words with
  | ('-' :: c :: letters) :: rest =>
    match if c = '-' then none else signalNumber? (c :: letters) with
    | some signal => return ⟨false, some signal, rest⟩
    | none =>
      match words with
      | ['-', '-'] :: rest => return ⟨false, none, rest⟩
      | ['-', 'l'] :: rest => return ⟨true, none, rest⟩
      | ['-', 's'] :: name :: rest =>
        match signalNumber? name with
        | some signal => return ⟨false, some signal, rest⟩
        | none => fault (bytes "invalid signal number or name: " ++ name)
      | ('-' :: 's' :: name) :: rest =>
        match signalNumber? name with
        | some signal => return ⟨false, some signal, rest⟩
        | none => fault (bytes "invalid signal number or name: " ++ name)
      | _ => fault (bytes "Illegal option -" ++ [c])
  | words => return ⟨false, none, words⟩

section

variable (run : Runner)

/-- Carry out `kill`. -/
def runKill (arguments : List Bytes) : Act Nat := do
  let order ← killOrder arguments
  if order.lists then
    match order.targets with
    | [] =>
      answer (bytes "0\n" ++ signalNames.flatMap fun name => bytes name ++ ['\n']) 0
      return 0
    | word :: _ =>
      let number ← numberArgument word
      let number := if 128 < number then number - 128 else number
      match if number = 0 then none else signalName? number with
      | some name =>
        answer (bytes name ++ ['\n']) 0
        return 0
      | none => fault (bytes "invalid signal number or exit status: " ++ word)
  else if order.targets.isEmpty then
    fault (bytes ("Usage: kill [-s sigspec | -signum | -sigspec] [pid | job]... or\n" ++
      "kill -l [exitstatus]"))
  else
    let mut status := 0
    for word in order.targets do
      let found ← match word with
        | '%' :: _ => pure false
        | '-' :: group => do
          let _ ← numberArgument group
          pure false
        | word => do signalProcess run (← numberArgument word) (order.signal.getD 15)
      unless found do
        complain (bytes "No such process\n")
        status := 1
    return status

/-- Carry out `wait`. -/
def runWait (arguments : List Bytes) : Act Nat := do
  let (_, words) ← takeOptions [] arguments
  match words with
  | [] =>
    perform .join
    modify fun world => { world with jobs := [] }
    return 0
  | words =>
    let mut status := 0
    for word in words do
      let number ← numberArgument word
      match (← get).jobs.find? fun job => job.number = number with
      | some job =>
        perform .join
        status := job.status
      | none => status := 127
    return status

end

/-! ## Output -/

/-- Carry out `echo`. -/
def runEcho (arguments : List Bytes) : Act Nat := do
  let content := echo arguments
  if (← writeTo 1 content) || content.isEmpty then return 0
  else
    complain (bytes "echo: I/O error")
    return 1

/-- Carry out `printf`. -/
def runPrintf (arguments : List Bytes) : Act Nat := do
  let (_, words) ← takeOptions [] arguments
  match words with
  | [] => fault (bytes "usage: printf format [arg ...]")
  | format :: arguments =>
    let result := formatted format arguments
    for complaint in result.complaints.reverse do complain complaint
    if let some reason := result.broken then complain reason
    let written ← writeTo 1 result.done.reverse
    match result.broken with
    | some _ =>
      setStatus 2
      throw .fault
    | none =>
      if !written && !result.done.isEmpty then complain (bytes "printf: I/O error")
      return if result.complaints.isEmpty && (written || result.done.isEmpty) then 0 else 1

/-- Carry out `test`, also in brackets. -/
def runTest (name : Bytes) (arguments : List Bytes) : Act Nat := do
  let words ← if name ≠ ['['] then pure arguments
    else if arguments.getLast? = some [']'] then pure arguments.dropLast
    else fault (bytes "missing ]")
  match holds (← files) (words.length + 1) words with
  | .ok true => return 0
  | .ok false => return 1
  | .error reason => fault reason

/-- One of the shell's own commands that run no others. -/
def runBuiltin? (run : Runner) (name : Bytes) : Option (List Bytes → Act Nat) :=
  match String.ofList name with
  | ":" | "true" => some fun _ => return 0
  | "false" => some fun _ => return 1
  | "echo" => some runEcho
  | "printf" => some runPrintf
  | "test" | "[" => some (runTest name)
  | "set" => some runSet
  | "export" => some (markVariables "export " Variable.exported ({ · with exported := true }))
  | "readonly" => some (markVariables "readonly " Variable.readonly ({ · with readonly := true }))
  | "local" => some runLocal
  | "unset" => some runUnset
  | "shift" => some runShift
  | "alias" => some runAlias
  | "unalias" => some runUnalias
  | "type" => some runType
  | "hash" => some runHash
  | "cd" | "chdir" => some runCd
  | "pwd" => some fun arguments => do
    let _ ← takeOptions ['L', 'P'] arguments
    answer (bytes (← get).session.directory.path ++ ['\n']) 0
    return (← get).session.status
  | "umask" => some runUmask
  | "ulimit" => some fun arguments => do
    let (_, words) ← takeOptions "HSatfdsmcnplvwr".toList arguments
    if 1 < words.length then fault (bytes "too many arguments")
    if words.isEmpty then answer (bytes "unlimited\n") 0
    return 0
  | "times" => some fun _ => do
    answer (bytes "0m0.000000s 0m0.000000s\n0m0.000000s 0m0.000000s\n") 0
    return 0
  | "read" => some runRead
  | "getopts" => some runGetopts
  | "trap" => some runTrap
  | "kill" => some (runKill run)
  | "wait" => some (runWait)
  | "jobs" => some fun _ => return 0
  | "fg" | "bg" => some fun _ => fault (bytes "No current job")
  | _ => none

end FlowCheck.Shell
