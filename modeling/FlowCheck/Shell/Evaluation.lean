import FlowCheck.Shell.Builtin
import FlowCheck.Shell.Tool

/-!
# Running scripts

A script is run command by command. Whatever runs commands in turn is told how to run one; that
comes together in a single recursion over a supply of steps. A script that uses the supply up counts
as one that goes on for ever.
-/

namespace FlowCheck.Shell

/-- How deep commands may be nested. -/
def depthLimit : Nat := 3000

/-- How often a loop may run. -/
def roundLimit : Nat := 100000

/-- Run something under the name of a command of the shell, which is shown when it complains. -/
def underName {α : Type} (name : Bytes) (act : Act α) : Act α := do
  let before := (← get).session.running
  let restore : Act Unit := changeSession fun session => { session with running := before }
  changeSession fun session => { session with running := some name }
  let result ← tryCatch act fun flow => do
    restore
    throw flow
  restore
  return result

/-- Run something that puts variables aside, and give them their values back. -/
def inFrame (act : Act Unit) : Act Unit := do
  beginFrame
  tryCatch act fun flow => do
    endFrame
    throw flow
  endFrame

section

variable (run : Runner)

/-! ## Programs -/

/-- A shell at its beginning, started by another one. -/
def Session.started (session : Session) (number : Nat) : Session where
  directory := session.directory
  bindings := session.bindings.filter fun entry => entry.2.exported
  zeroth := session.zeroth
  streams := session.streams
  traps := session.traps.filter fun entry => entry.2.isEmpty
  mask := session.mask
  number := number
  ancestors := session.number :: session.ancestors
  outermost := session.outermost

/-- The variables that every shell has. -/
def standardVariables (session : Session) : List (Bytes × Variable) :=
  let standard : List (String × Bytes) :=
    [("IFS", [' ', '\t', '\n']), ("OPTIND", ['1']), ("PPID", digits (session.ancestors.headD 1)),
      ("PS1", bytes "# "), ("PS2", bytes "> "), ("PS4", bytes "+ ")]
  let searchPath := (session.value? (bytes "PATH")).getD
    (bytes "/usr/local/sbin:/usr/local/bin:/usr/sbin:/usr/bin:/sbin:/bin")
  let plain := standard.map fun (name, value) => (bytes name, ({ value := some value } : Variable))
  (bytes "PATH", { session.entry (bytes "PATH") with value := some searchPath }) ::
    (bytes "PWD", { value := some (bytes session.directory.path), exported := true }) :: plain

/-- How a shell was asked to run. -/
structure ShellOrder where
  options : Letters := []
  /-- Whether the first word is a script itself. -/
  inline : Bool := false
  words : List Bytes

/-- The order that the arguments of a shell are. -/
def shellOrder : List Bytes → ShellOrder → Act ShellOrder
  | ['-', '-'] :: rest, order | ['-'] :: rest, order => return { order with words := rest }
  | [sign, 'o'] :: name :: rest, order => do
    if sign ≠ '-' && sign ≠ '+' then return { order with words := [sign, 'o'] :: name :: rest }
    match optionNames.lookup (String.ofList name) with
    | some letter =>
      let others := order.options.filter (· ≠ letter)
      shellOrder rest { order with options := if sign = '-' then letter :: others else others }
    | none => fault (bytes "Illegal option " ++ [sign] ++ bytes "o " ++ name)
  | (sign :: c :: letters) :: rest, order => do
    if sign ≠ '-' && sign ≠ '+' then return { order with words := (sign :: c :: letters) :: rest }
    let mut options := order.options
    let mut inline := order.inline
    for letter in c :: letters do
      if letter = 'c' then inline := true
      else if letter = 'l' then pure ()
      else if optionNames.any fun entry => entry.2 = letter then
        options := options.filter (· ≠ letter)
        if sign = '-' then options := letter :: options
      else fault (bytes "Illegal option " ++ [sign, letter])
    shellOrder rest { order with options, inline }
  | words, order => return { order with words }

/-- Run a shell with the arguments of its program. -/
def runShell (arguments : List Bytes) : Act Unit := do
  let zeroth := arguments.headD (bytes "sh")
  changeSession fun session =>
    { session with
      zeroth := zeroth
      line := 0
      bindings := (standardVariables session).foldl
        (fun bindings entry => withEntry entry.1 entry.2 bindings) session.bindings }
  let order ← shellOrder arguments.tail { words := [] }
  let begin (zeroth : Bytes) (arguments : List Bytes) (options : Letters) : Act Unit :=
    changeSession fun session =>
      { session with zeroth := zeroth, arguments := arguments, options := options, line := 1 }
  match order.inline, order.words with
  | true, script :: words =>
    begin (words.headD zeroth) words.tail order.options
    runText run script
  | true, [] => fault (bytes "-c requires an argument")
  | false, words =>
    if words.isEmpty || order.options.contains 's' then
      let options := if order.options.contains 's' then order.options else 's' :: order.options
      begin zeroth words options
      let input ← takeFrom 0 fun _ => none
      runText run (← wholeOf (input.getD {}))
    else
      let path := words.headD []
      match ← readFile path with
      | .ok script =>
        begin path words.tail order.options
        runText run (← wholeOf script)
      | .error .isDirectory => pure ()
      | .error error =>
        fault (bytes "cannot open " ++ path ++ bytes ": " ++ openingReason false error)

/-- What is said of a process that a signal ended. -/
def endingText (signal : Nat) : String :=
  match signal with
  | 1 => "Hangup"
  | 3 => "Quit"
  | 4 => "Illegal instruction"
  | 6 => "Aborted"
  | 7 => "Bus error"
  | 8 => "Floating point exception"
  | 9 => "Killed"
  | 10 => "User defined signal 1"
  | 11 => "Segmentation fault"
  | 12 => "User defined signal 2"
  | 14 => "Alarm clock"
  | 15 => "Terminated"
  | signal => s!"Unknown signal {signal}"

/-- Run another shell as a process of its own. -/
def startShell (arguments : List Bytes) : Act Unit := do
  let outer := (← get).session
  let number ← freshNumber
  changeSession fun session => { session.started number with outermost := false }
  let status ← tryCatch (toItsEnd run (runShell run arguments)) fun
    | .killed target signal => do
      if target ≠ number then throw (.killed target signal)
      changeSession fun _ => outer
      unless signal = 2 || signal = 13 do
        let _ ← writeTo 2 (bytes (endingText signal) ++ ['\n'])
      return 128 + signal
    | flow => throw flow
  changeSession fun _ => { outer with status := status % 256 }
  deliverSignals run

/-- Run a program of the system, its own name in front of its arguments. -/
def runStarted (launch : List Bytes → Act Unit) (program : String) (arguments : List Bytes) :
    Act Unit := do
  if program = "sh" then startShell run arguments
  else
    match tool? launch program with
    | some tool =>
      let outer := (← get).session
      let status ← tool arguments.tail
      let isLost := (← get).session.lostOutput
      if isLost then complainAs program (bytes "write error: Bad file descriptor")
      changeSession fun _ => { outer with status := if isLost then max status 1 else status }
    | none => failWith 127 (bytes s!"{program}: not found")

/-- Run a program that is looked up by its name. A shell that looks for a program on its search path
knows only one status for all failures, unless it is replaced by the program. The fuel bounds how
many programs start each other. -/
def runProgram (replaces : Bool) : Nat → List Bytes → Act Unit
  | _, [] => setStatus 0
  | 0, _ => throw .stuck
  | fuel + 1, name :: arguments => do
    let session := (← get).session
    let searchPath := (session.value? (bytes "PATH")).map textOf
    if arguments.any fun word => decide (argumentLimit < word.length) then
      failWith 126 (name ++ bytes ": " ++ reasonOf .argumentsTooLong)
      return
    match (← files).start searchPath (textOf name) [] with
    | .ok started =>
      runStarted run (runProgram true fuel) started.program
        (started.arguments.map bytes ++ arguments)
    | .error .notProgram => startShell run (bytes "sh" :: name :: arguments)
    | .error error =>
      let missing := [.notFound, .notDirectory, .tooManyLinks, .nameTooLong].contains error
      let status := if missing || !(replaces || name.contains '/') then 127 else 126
      failWith status (name ++ bytes ": " ++ startingReason error)

/-- How many programs may start each other. -/
def launchDepth : Nat := 100

/-- Run a program for the shell. Without a search path, only names with slashes lead to programs. -/
def runExternal (replaces : Bool) (words : List Bytes) : Act Unit := do
  let name := words.headD []
  if ((← get).session.value? (bytes "PATH")).isNone && !name.contains '/' then
    failWith 127 (name ++ bytes ": not found")
  else runProgram run replaces launchDepth words

/-! ## Commands of the shell that run others -/

/-- Run what a file holds as a part of the script. -/
def runFile (arguments : List Bytes) : Act Nat := do
  let (_, words) ← takeOptions [] arguments
  match words with
  | [] => return 0
  | name :: _ =>
    let searchPath := (← get).session.value? (bytes "PATH")
    let candidates := ((searchPath.map textOf).getD "").splitOn ":" |>.map fun directory =>
      if directory.isEmpty then name else bytes directory ++ '/' :: name
    let files ← files
    let found := if name.contains '/' then some name
      else candidates.find? fun path => files.hasFile (textOf path)
    match found with
    | none => fault (name ++ bytes ": not found")
    | some path =>
      match ← readFile path with
      | .error error =>
        fault (bytes "cannot open " ++ path ++ bytes ": " ++ openingReason false error)
      | .ok script =>
        changeSession fun session => { session with calls := session.calls + 1, status := 0 }
        let leave : Act Unit :=
          changeSession fun session => { session with calls := session.calls - 1 }
        tryCatch (underName path (do runText run (← wholeOf script))) fun
          | .back status => setStatus status
          | flow => do
            leave
            throw flow
        leave
        return (← get).session.status

/-- Run a function. -/
def runFunction (body : Command) (arguments : List Bytes) : Act Unit := do
  let outer := (← get).session
  changeSession fun session =>
    { session with
      arguments := arguments, position := 1, letter := 0, loops := 0, calls := session.calls + 1 }
  let leave : Act Unit :=
    changeSession fun session =>
      { session with
        arguments := outer.arguments, position := outer.position, letter := outer.letter
        loops := outer.loops, calls := outer.calls }
  tryCatch (inFrame (run body)) fun
    | .back status => setStatus status
    | flow => do
      leave
      throw flow
  leave

/-- Leave loops or go on with their next rounds. -/
def leaveLoops (next : Bool) (arguments : List Bytes) : Act Nat := do
  let count ← numberOr arguments 1
  if count = 0 then fault (bytes "Illegal number: 0")
  let loops := (← get).session.loops
  setStatus 0
  if loops = 0 then return 0
  else throw (.skip (min count loops - 1) next)

/-- One of the shell's own commands that run others or change where the script goes on. -/
def runControl? (name : Bytes) : Option (List Bytes → Act Nat) :=
  match String.ofList name with
  | "exit" => some fun arguments => do
    throw (.leave (← numberOr arguments (← get).session.status))
  | "return" => some fun arguments => do
    throw (.back (← numberOr arguments (← get).session.status))
  | "break" => some (leaveLoops false)
  | "continue" => some (leaveLoops true)
  | "eval" => some fun arguments => do
    let text := [' '].intercalate arguments
    setStatus 0
    runText run text
    return (← get).session.status
  | "." => some (runFile run)
  | "exec" => some fun arguments => do
    let (_, words) ← takeOptions [] arguments
    if words.isEmpty then return 0
    runExternal run true words
    changeSession fun session => { session with traps := [] }
    throw (.leave (← get).session.status)
  | _ => none

/-- One of the shell's own commands. -/
def runOwn? (name : Bytes) : Option (List Bytes → Act Nat) :=
  (runControl? run name).or (runBuiltin? run name)

/-- Run one of the shell's own commands under its name. What is wrong with it ends the shell only if
it is special. -/
def runNamed (special : Bool) (name : Bytes) (command : List Bytes → Act Nat)
    (arguments : List Bytes) : Act Unit := do
  tryCatch (do setStatus (← underName name (command arguments))) fun
    | .fault => if special then throw .fault else setStatus 2
    | flow => throw flow

/-- Run a command by its name without regard to functions, or describe it. -/
def runCommand (arguments : List Bytes) : Act Unit := do
  let (letters, words) ← underName (bytes "command") (takeOptions ['p', 'v', 'V'] arguments)
  match words with
  | [] => setStatus 0
  | name :: rest =>
    if letters.contains 'v' || letters.contains 'V' then
      setStatus (← describeName (letters.contains 'V') name)
    else
      match runOwn? run name with
      | some command => runNamed false name command rest
      | none => runExternal run false words

/-- Run a command by its name: one of the shell's own, a function, or a program. -/
def runWords : List Bytes → Act Unit
  | [] => pure ()
  | name :: arguments => do
    let function := (← get).session.functions.lookup name
    if name.contains '/' then runExternal run false (name :: arguments)
    else
      match if isSpecial name then none else function with
      | some body => runFunction run body arguments
      | none =>
        if name = bytes "command" then runCommand run arguments
        else
          match runOwn? run name with
          | some command => runNamed (isSpecial name) name command arguments
          | none => runExternal run false (name :: arguments)

/-! ## Simple commands -/

/-- The words of a command. Behind some names, words that assign are expanded as values. -/
def expandCommand : List Word → List Bytes → Act (List Bytes)
  | [], done => return done
  | word :: rest, done => do
    let name := match done with
      | first :: second :: _ => if first = bytes "command" then second else first
      | [first] => first
      | [] => []
    let declares := ["export", "readonly", "local"].any fun known => bytes known = name
    let fields ← match if declares then word.assignment? else none with
      | some (variableName, value) => do
        let text ← expandText run .value value
        pure [variableName ++ '=' :: text]
      | none => expandFields run word
    expandCommand rest (done ++ fields)

/-- Tell what is run, if the shell is to tell. -/
def trace (assigned : List (Bytes × Bytes)) (words : List Bytes) : Act Unit := do
  let session := (← get).session
  if session.has 'x' && !(assigned.isEmpty && words.isEmpty) then
    let lead := (session.value? (bytes "PS4")).getD []
    let shown := assigned.map (fun (name, value) => name ++ '=' :: value) ++ words
    let _ ← writeTo 2 (lead ++ [' '].intercalate shown ++ ['\n'])

/-- Assign the values of words to variables, one after the other. -/
def assignAll (aside exported : Bool) (assignments : List (Bytes × Word)) :
    Act (List (Bytes × Bytes)) :=
  assignments.mapM fun (name, word) => do
    let value ← expandText run .value word
    if aside then putAside name
    setVariable name value
    if exported then
      changeSession fun session =>
        session.withVariable name { session.entry name with exported := true }
    return (name, value)

/-- Run a simple command whose streams are led already. -/
def runAssigned (assignments : List (Bytes × Word)) (words : List Bytes) : Act Unit := do
  match words with
  | [] =>
    let assigned ← assignAll run false false assignments
    trace assigned []
    setStatus ((← get).session.outputStatus.getD 0)
  | name :: _ =>
    if isSpecial name || assignments.isEmpty then
      let assigned ← assignAll run false false assignments
      trace assigned words
      runWords run words
    else
      inFrame do
        let assigned ← assignAll run true true assignments
        trace assigned words
        runWords run words

/-- Run a simple command. -/
def runSimple (line : Nat) (assignments : List (Bytes × Word)) (words : List Word)
    (redirections : List Redirection) : Act Unit := do
  changeSession fun session => { session with line := line, outputStatus := none }
  let fields ← expandCommand run words []
  if fields = [bytes "exec"] then
    if ← redirectAll run false redirections then
      runAssigned run assignments fields
      closeUnused
    else throw .fault
  else if redirections.isEmpty then runAssigned run assignments fields
  else
    keepingStreams do
      if ← redirectAll run true redirections then runAssigned run assignments fields
      else if fields.head?.any isSpecial then throw .fault

/-! ## All commands -/

/-- Run a command in the background. -/
def runBackground (command : Command) : Act Unit := do
  let before := (← get).deeds
  let nothing ← openChannel (.device none)
  modify fun world => { world with deeds := [] }
  let inner : Act Unit :=
    inCopy run (fun session =>
      { session with streams := withEntry 0 nothing session.streams, guarded := false })
      (run command)
  tryCatch inner fun
    | .stuck => perform .hang
    | flow => throw flow
  let world ← get
  let number ← freshNumber
  let job : Job := ⟨number, world.session.status, before.length⟩
  modify fun changed =>
    { changed with deeds := before, jobs := job :: changed.jobs }
  let streams := (← outerStreams).filter fun stream => decide (stream ≠ .stdin)
  perform (.fork streams world.deeds.reverse)
  changeSession fun session => { session with background := some number, status := 0 }
  deliverSignals run

/-- Run the first branch of which a pattern matches. -/
def runBranches (subject : Bytes) : List (List Word × Command) → Act Unit
  | [] => setStatus 0
  | (patterns, body) :: rest => do
    let matching ← patterns.anyM fun pattern => do
      return Glob.matchAll (← expandPattern run pattern) subject
    if matching then
      match body with
      | .nothing => setStatus 0
      | body => run body
    else runBranches subject rest

/-- How a round of a loop ended. -/
inductive RoundEnd where
  /-- By its test, so that the loop is over. -/
  | tested
  /-- With its body, and whether the loop goes on. -/
  | ran (goesOn : Bool)

/-- Run a loop as long as its test allows. -/
def runLoop (untilDone : Bool) (test body : Command) : Act Unit := do
  inLoop do
    let mut last := 0
    for _ in [0:roundLimit] do
      let roundEnd : RoundEnd ← tryCatch (do
          if (← guarded (run test)) == untilDone then return .tested
          run body
          return .ran true) fun
        | .skip 0 next => return .ran next
        | .skip (loops + 1) next => throw (.skip loops next)
        | flow => throw flow
      match roundEnd with
      | .tested =>
        setStatus last
        return
      | .ran goesOn =>
        last := (← get).session.status
        unless goesOn do return
    throw .stuck

/-- Run a command by means of the ones inside of it. -/
def step : Command → Act Unit
  | .nothing => pure ()
  | .simple line assignments words redirections => do
    runSimple run line assignments words redirections
    checkStatus
  | .sequence first second => do
    run first
    run second
  | .both first second => do
    if ← guarded (run first) then run second
  | .either first second => do
    unless ← guarded (run first) do run second
  | .negation inner => do
    let succeeded ← guarded (run inner)
    setStatus (if succeeded then 1 else 0)
  | .pipeline commands => do
    runStages run none (commands.map run)
    checkStatus
  | .background inner => runBackground run inner
  | .apart inner => do
    inOwnShell run id (run inner)
    checkStatus
  | .redirected line inner redirections => do
    changeSession fun session => { session with line := line }
    keepingStreams do
      if ← redirectAll run true redirections then run inner else checkStatus
  | .conditional test yes no => do
    if ← guarded (run test) then run yes
    else
      match no with
      | .nothing => setStatus 0
      | no => run no
  | .loop untilDone test body => runLoop run untilDone test body
  | .forEach line name words body => do
    changeSession fun session => { session with line := line }
    let items ← words.mapM (expandFields run)
    inLoop do
      if items.flatten.isEmpty then setStatus 0
      for item in items.flatten do
        setVariable name item
        unless ← round (run body) do return
  | .choice line word branches => do
    changeSession fun session => { session with line := line }
    let subject ← expandText run .single word
    runBranches run subject branches
  | .define _ name body =>
    changeSession fun session =>
      { session with functions := withEntry name body session.functions, status := 0 }

end

/-- Run a command. -/
def run : Nat → Runner
  | 0, _ => throw .stuck
  | fuel + 1, command => do
    unless (← get).session.has 'n' do step (run fuel) command

/-- What a program does when it is started from outside. -/
def deedsOf (root : Node) (directory : Place) (environment : List (String × String))
    (input program : String) (arguments : List String) : List Deed :=
  let session : Session :=
    { directory
      bindings := environment.map fun (name, value) =>
        (bytes name, { value := some (bytes value), exported := true })
      zeroth := bytes (arguments.headD program)
      number := 42
      outermost := true }
  let channels : List (Nat × Channel) :=
    [(0, .input { content := bytes input }), (1, .output .stdout), (2, .output .stderr)]
  let world : World := { root, channels, session }
  let arguments := arguments.map bytes
  let runner := run depthLimit
  let act : Act Nat :=
    if program = "sh" then toItsEnd runner (runShell runner arguments)
    else do
      runStarted runner (runProgram runner true launchDepth) program arguments
      return (← get).session.status
  let (result, final) := (ExceptT.run act).run world
  let last : Deed := match result with
    | .ok status => .leave (.exited (status % 256))
    | .error (.killed _ signal) => .leave (.killed signal)
    | .error .stuck => .hang
    | .error _ => .leave (.exited (final.session.status % 256))
  (last :: final.deeds).reverse

end FlowCheck.Shell
