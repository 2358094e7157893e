import FlowCheck.Shell.Signal
import FlowCheck.Shell.Tool.Lines
import FlowCheck.Shell.Tool.Listing

/-!
# Programs that start others

Programs that start another one: with other variables, with arguments from the input, for some time
only, or as it is; and those that wait or find programs.
-/

namespace FlowCheck.Shell

section

variable (launch : List Bytes → Act Unit)

/-- Start a program for another one, and tell its status. -/
def startFor (tool : String) (refusal : Bytes → Bytes) (words : List Bytes) : Act Nat := do
  let name := words.headD []
  let searchPath := ((← get).session.value? (bytes "PATH")).map textOf
  match (← files).start searchPath (textOf name) [] with
  | .ok _ | .error .notProgram =>
    launch words
    return (← get).session.status
  | .error error =>
    complainAs tool (refusal name ++ bytes ": " ++ reasonOf error)
    return if error = .notFound || error = .notDirectory then 127 else 126

/-! ## Variables -/

/-- The variables that a program is given. -/
def environment : Act (List (Bytes × Bytes)) := do
  return (← get).session.bindings.filterMap fun (name, entry) =>
    if entry.exported then entry.value.map fun value => (name, value) else none

/-- The words of a text, as `env` splits it. -/
def splitWords (text : Bytes) : List Bytes :=
  (text.splitOnP isSpace).filter fun word => !word.isEmpty

/-- Start a program with other variables, or show the variables. -/
def env (arguments : List Bytes) : Act Nat :=
  let table : OptionTable :=
    { letters := "0C:iS:u:v", strict := true
      names := [("ignore-environment", 'i'), ("null", '0'), ("unset", 'u'), ("chdir", 'C'),
        ("split-string", 'S'), ("debug", 'v')] }
  let arguments := match arguments with
    | ('-' :: 'S' :: text) :: rest =>
      if text.isEmpty then splitWords (rest.headD []) ++ rest.drop 1 else splitWords text ++ rest
    | arguments => arguments
  withOptions "env" table arguments (fun options => do
    let (clears, words) := match options.words with
      | ['-'] :: rest => (true, rest)
      | words => (options.has 'i', words)
    let change (act : List (Bytes × Variable) → List (Bytes × Variable)) : Act Unit :=
      changeSession fun session => { session with bindings := act session.bindings }
    if clears then change fun _ => []
    for (letter, value) in options.given do
      if letter = 'u' then change (withoutEntry value)
    let isSetting (word : Bytes) : Bool := word.contains '='
    for word in words.takeWhile isSetting do
      let name := word.takeWhile (· ≠ '=')
      let entry : Variable := { value := some (word.drop (name.length + 1)), exported := true }
      change fun bindings =>
        if bindings.any fun (other, _) => other = name then
          bindings.map fun (other, before) =>
            if other = name then (name, entry) else (other, before)
        else bindings ++ [(name, entry)]
    match options.value? 'C' with
    | some directory =>
      match ← findNode directory with
      | .ok (place, .directory _) =>
        changeSession fun session => { session with directory := place }
      | .ok _ =>
        complainAs "env" (bytes "cannot change directory to " ++ inQuotes directory ++
          bytes ": Not a directory")
        return 125
      | .error error =>
        complainAs "env" (bytes "cannot change directory to " ++ inQuotes directory ++ bytes ": " ++
          reasonOf error)
        return 125
    | none => pure ()
    match words.dropWhile isSetting with
    | [] =>
      let ending := if options.has '0' then '\x00' else '\n'
      let shown := (← environment).flatMap fun (name, value) => name ++ '=' :: value ++ [ending]
      put shown
      return 0
    | words => startFor launch "env" inQuotes words) 125

/-- Show variables that programs are given. -/
def printenv (arguments : List Bytes) : Act Nat :=
  withOptions "printenv" { letters := "0", names := [("null", '0')] } arguments (fun options => do
    let ending := if options.has '0' then '\x00' else '\n'
    let all ← environment
    if options.words.isEmpty then
      put (all.flatMap fun (name, value) => name ++ '=' :: value ++ [ending])
      return 0
    let found := options.words.map fun name => all.lookup name
    put (found.flatMap fun value => (value.map fun value => value ++ [ending]).getD [])
    return if found.all Option.isSome then 0 else 1) 2

/-! ## Arguments from the input -/

/-- The items that blanks part, with quotes and backslashes taken off, in lines. A quote that is not
closed before the end of its line ends everything and is told. -/
def quotedItems : Nat → List (List Bytes) → List Bytes → Option Bytes → Bytes →
    List (List Bytes) × Option Char
  | 0, lines, items, word, _ | _, lines, items, word, [] =>
    let items := match word with
      | some word => word.reverse :: items
      | none => items
    ((if items.isEmpty then lines else items.reverse :: lines).reverse, none)
  | fuel + 1, lines, items, word, c :: rest =>
    let finished := match word with
      | some word => word.reverse :: items
      | none => items
    let broken (quote : Char) : List (List Bytes) × Option Char :=
      ((if items.isEmpty then lines else items.reverse :: lines).reverse, some quote)
    if c = '\n' then
      -- A blank at the end of a line makes the next line a part of it.
      let goesOn := word.isNone && !items.isEmpty
      if finished.isEmpty || goesOn then quotedItems fuel lines finished none rest
      else quotedItems fuel (finished.reverse :: lines) [] none rest
    else if isSpace c then quotedItems fuel lines finished none rest
    else if c = '\'' || c = '"' then
      let inner := rest.takeWhile fun d => d ≠ c && d ≠ '\n'
      match rest.drop inner.length with
      | d :: after =>
        if d = c then quotedItems fuel lines items (some (inner.reverseAux (word.getD []))) after
        else broken c
      | [] => broken c
    else if c = '\\' then
      match rest with
      | d :: after => quotedItems fuel lines items (some (d :: word.getD [])) after
      | [] => quotedItems fuel lines items word rest
    else quotedItems fuel lines items (some (c :: word.getD [])) rest

/-- A text with every occurrence of a part replaced. -/
def replaceAll (part new : Bytes) : Nat → Bytes → Bytes
  | 0, text => text
  | _, [] => []
  | fuel + 1, c :: rest =>
    if !part.isEmpty && part.isPrefixOf (c :: rest) then
      new ++ replaceAll part new fuel ((c :: rest).drop part.length)
    else c :: replaceAll part new fuel rest

/-- A list in groups of some size. -/
def groupsOf {α : Type} (size : Nat) : Nat → List α → List (List α)
  | 0, _ | _, [] => []
  | fuel + 1, items => items.take size :: groupsOf size fuel (items.drop size)

/-- Run a program for groups of arguments one after the other. What the runs come to is one
status. -/
def runGroups (traces : Bool) (groups : List (List Bytes)) : Act Nat := do
  let mut status := 0
  for words in groups do
    if traces then
      let _ ← writeTo 2 ([' '].intercalate words ++ ['\n'])
    let last ← startFor launch "xargs" (fun name => name) words
    if last = 255 then
      complainAs "xargs" (words.headD [] ++ bytes ": exited with status 255; aborting")
      return 124
    if last = 126 || last = 127 then return last
    if 128 < last then return 125
    if last ≠ 0 then status := 123
  return status

/-- Run a program with the items of the input as arguments. -/
def xargs (arguments : List Bytes) : Act Nat :=
  let table : OptionTable :=
    { letters := "0a:d:E:I:i:L:l:n:P:prs:tx", strict := true
      names := [("null", '0'), ("delimiter", 'd'), ("max-args", 'n'), ("max-lines", 'L'),
        ("no-run-if-empty", 'r'), ("verbose", 't'), ("replace", 'I'), ("arg-file", 'a'),
        ("max-procs", 'P'), ("max-chars", 's')] }
  withOptions "xargs" table arguments (fun options => do
    let number? (letter : Char) : Except Bytes (Option Nat) :=
      match options.value? letter with
      | none => .ok none
      | some text =>
        if !text.isEmpty && text.all Char.isDigit then .ok (some (naturalOf text)) else .error text
    match number? 'n', number? 'L' with
    | .error text, _ =>
      misused "xargs" 1 (bytes "invalid number \"" ++ text ++ bytes "\" for -n option")
    | _, .error text =>
      misused "xargs" 1 (bytes "invalid number \"" ++ text ++ bytes "\" for -L option")
    | .ok most, .ok mostLines =>
      if most = some 0 then
        return ← misused "xargs" 1 (bytes "value 0 for -n option should be >= 1")
      let input ← match options.value? 'a' with
        | some path => readFile path
        | none => takeInput fun _ => none
      match input with
      | .error error =>
        blameInput "xargs" ((options.value? 'a').getD (bytes "standard input")) error
        return 1
      | .ok supply =>
        let text ← wholeOf supply
        let nothing ← openChannel (.device none)
        if (options.value? 'a').isNone then lead 0 (some nothing)
        let command := if options.words.isEmpty then [bytes "echo"] else options.words
        let traces := options.has 't'
        let separator? : Option Char := if options.has '0' then some '\x00'
          else (options.value? 'd').bind fun value => (leadingSeparator value).head?
        match options.last? ['I', 'L', 'n'], options.value? 'I' with
        | some 'I', some mark =>
          let lines := (cutLines (separator?.getD '\n') text).map fun line =>
            if separator?.isSome then line else line.dropWhile isSpace
          let lines := lines.filter fun line => !line.isEmpty
          runGroups launch traces (lines.map fun line =>
            command.map fun word => replaceAll mark line (word.length + 1) word)
        | last, _ =>
          let (lines, broken) := match separator? with
            | some separator => ((cutLines separator text).map fun item => [item], none)
            | none => quotedItems (text.length + 1) [] [] none text
          if let some quote := broken then
            let kind := if quote = '"' then "double" else "single"
            complainAs "xargs" (bytes (s!"unmatched {kind} quote; by default quotes are special " ++
              "to xargs unless you use the -0 option"))
          let groups := match last, mostLines, most with
            | some 'L', some count, _ =>
              (groupsOf count (lines.length + 1) lines).map List.flatten
            | _, _, some count =>
              let items := lines.flatten
              groupsOf count (items.length + 1) items
            | _, _, none => if lines.isEmpty then [] else [lines.flatten]
          let groups := if groups.isEmpty && !options.has 'r' && broken.isNone then [[]] else groups
          let status ← runGroups launch traces (groups.map (command ++ ·))
          return if broken.isSome then 1 else status) 1
where
  /-- A separator as it is written in an argument. -/
  leadingSeparator (text : Bytes) : Bytes :=
    match text with
    | '\\' :: rest => (leadingEscape rest).1
    | text => text

/-! ## Time -/

/-- The milliseconds that an argument stands for; none are told if it goes on for ever. -/
def milliseconds? (text : Bytes) : Option (Option Nat) :=
  if text = bytes "infinity" || text = bytes "inf" then some none
  else
    let (amount, unit) := match text.getLast? with
      | some 's' => (text.dropLast, 1)
      | some 'm' => (text.dropLast, 60)
      | some 'h' => (text.dropLast, 3600)
      | some 'd' => (text.dropLast, 86400)
      | _ => (text, 1)
    match plainDecimal? amount with
    | some decimal =>
      if decimal.value < 0 then none
      else
        let scale := Nat.pow 10 decimal.places
        some (some ((decimal.value.toNat * unit * 1000 + scale - 1) / scale))
    | none => none

/-- Wait for some time. -/
def sleep (arguments : List Bytes) : Act Nat :=
  withOptions "sleep" { letters := "" } arguments (fun options => do
    if options.words.isEmpty then return ← misused "sleep" 1 (bytes "missing operand")
    let times := options.words.map fun word => (word, milliseconds? word)
    for (word, time) in times do
      if time.isNone then complainAs "sleep" (bytes "invalid time interval " ++ inQuotes word)
    if times.any fun entry => entry.2.isNone then
      let _ ← writeTo 2 (bytes "Try 'sleep --help' for more information.\n")
      return 1
    if times.any fun entry => entry.2 = some none then throw .stuck
    perform (.pause ((times.filterMap fun entry => entry.2.bind fun time => time).foldl (· + ·) 0))
    return 0) 1

/-- Run a program for some time at most. -/
def timeout (arguments : List Bytes) : Act Nat :=
  let table : OptionTable :=
    { letters := "fk:s:v", strict := true
      names := [("foreground", 'f'), ("kill-after", 'k'), ("preserve-status", 'p'), ("signal", 's'),
        ("verbose", 'v')] }
  withOptions "timeout" table arguments (fun options => do
    let signal? := ((options.value? 's').map signalNumber?).getD (some 15)
    match options.words, signal? with
    | _, none =>
      misused "timeout" 125
        (inQuotes ((options.value? 's').getD []) ++ bytes ": invalid signal")
    | duration :: name :: rest, some signal =>
      match milliseconds? duration with
      | none => misused "timeout" 125 (bytes "invalid time interval " ++ inQuotes duration)
      | some limit =>
        let before := (← get).deeds
        modify fun world => { world with deeds := [] }
        let status : Option Nat ← tryCatch (do
            let status ← startFor launch "timeout"
              (fun name => bytes "failed to run command " ++ inQuotes name) (name :: rest)
            return some status) fun
          | .stuck => do
            perform .hang
            return none
          | flow => throw flow
        let deeds := (← get).deeds.reverse
        let isUnlimited := limit.isNone || limit = some 0
        match if isUnlimited then none else endedBy signal (limit.getD 0) deeds with
        | some cut =>
          let kept := cut.filter fun
            | .leave _ => false
            | _ => true
          modify fun world => { world with deeds := kept.reverse ++ before }
          return if signal = 9 then 137 else if options.has 'p' then 128 + signal else 124
        | none =>
          modify fun world => { world with deeds := deeds.reverse ++ before }
          match status with
          | some status => return status
          | none => throw .stuck
    | _, some _ => misused "timeout" 125 (bytes "missing operand")) 125

/-! ## As it is -/

/-- Run a program as less urgent, which makes no difference. -/
def nice (arguments : List Bytes) : Act Nat :=
  withOptions "nice" { letters := "n:", names := [("adjustment", 'n')], strict := true } arguments
    (fun options => do
      if options.words.isEmpty then
        put (bytes "0\n")
        return 0
      else startFor launch "nice" inQuotes options.words) 125

/-- Run a program that outlives its terminal, which makes no difference without one. -/
def nohup (arguments : List Bytes) : Act Nat :=
  withOptions "nohup" { letters := "", strict := true } arguments (fun options => do
    if options.words.isEmpty then misused "nohup" 125 (bytes "missing operand")
    else
      startFor launch "nohup" (fun name => bytes "failed to run command " ++ inQuotes name)
        options.words) 125

/-- Run a program with other buffers or in a session of its own, which makes no difference. -/
def runPlainly (tool letters : String) (arguments : List Bytes) : Act Nat :=
  withOptions tool { letters, strict := true } arguments (fun options => do
    if options.words.isEmpty then misused tool 125 (bytes "missing operand")
    else startFor launch tool inQuotes options.words) 125

end

/-- Show which files are started by names. -/
def which (arguments : List Bytes) : Act Nat := do
  let all := arguments.head? = some ['-', 'a']
  let names := if all then arguments.tail else arguments
  let files ← files
  let searchPath := (((← get).session.value? (bytes "PATH")).map textOf).getD ""
  let isProgram (path : Bytes) : Bool :=
    match files.node (textOf path) with
    | .ok (.program _) | .ok (.file _ true) => true
    | _ => false
  let mut status := 0
  for name in names do
    let candidates := if name.contains '/' then [name]
      else (searchPath.splitOn ":").map fun directory =>
        (if directory.isEmpty then ['.'] else bytes directory) ++ '/' :: name
    let found := candidates.filter isProgram
    let shown := if all then found else found.take 1
    put (joinLines '\n' shown)
    if found.isEmpty || name.isEmpty then status := 1
  return if names.isEmpty then 1 else status

end FlowCheck.Shell
