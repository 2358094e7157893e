import FlowCheck.Shell.Filter

/-!
# Programs that make and remove files

Files and directories are made, removed and marked. What stands at a path is looked up first; the
node that is found decides what a program does and what it complains about.
-/

namespace FlowCheck.Shell

/-! ## Nodes and their places -/

/-- A path without the slashes at its end. -/
def withoutSlashes (path : Bytes) : Bytes :=
  let trimmed := (path.reverse.dropWhile (· = '/')).reverse
  if trimmed.isEmpty then path.take 1 else trimmed

/-- The last name of a path, slashes at its end left out. -/
def lastName (path : Bytes) : Bytes :=
  let trimmed := withoutSlashes path
  if trimmed = ['/'] then trimmed else (trimmed.reverse.takeWhile (· ≠ '/')).reverse

/-- A path inside of a directory. -/
def inside (directory name : Bytes) : Bytes :=
  directory ++ (if directory.getLast? = some '/' then [] else ['/']) ++ name

/-- The node at a path and its place. -/
def findNode (path : Bytes) : Act (Except SystemError (Place × Node)) := do
  let files ← files
  match files.locate (textOf path) with
  | .ok place =>
    match files.root.get? place with
    | some node => return .ok (place, node)
    | none => return .error .notFound
  | .error error => return .error error

/-- Whether a path leads to a directory. -/
def isDirectoryAt (path : Bytes) : Act Bool := do
  return (← files).hasDirectory (textOf path)

/-- Remove what is at a place. -/
def removeNode (place : Place) : Act Unit :=
  modify fun world => { world with root := world.root.erase place }

/-- Complain that something cannot be done with a path. -/
def complainOf (tool act : String) (path : Bytes) (reason : Bytes) : Act Unit :=
  complainAs tool (bytes act ++ inQuotes path ++ bytes ": " ++ reason)

/-- Do something with each of some paths, and tell whether all went well. -/
def forAll (paths : List Bytes) (act : Bytes → Act Bool) : Act Bool := do
  let mut all := true
  for path in paths do
    unless ← act path do all := false
  return all

/-- The status of a program that did all it should, or not. -/
def statusOf (all : Bool) : Nat :=
  if all then 0 else 1

/-! ## Making -/

/-- Make files that are missing. -/
def touch (arguments : List Bytes) : Act Nat :=
  let table : OptionTable :=
    { letters := "acd:fhmr:t:"
      names := [("no-create", 'c'), ("date", 'd'), ("reference", 'r'), ("time", 'a')] }
  withOptions "touch" table arguments (fun options => do
    if options.words.isEmpty then return ← misused "touch" 1 (bytes "missing file operand")
    let all ← forAll options.words fun path => do
      match ← findNode path with
      | .ok _ => return true
      | .error .notFound =>
        if options.has 'c' then return true
        if path.getLast? = some '/' then
          complainOf "touch" "setting times of " path (reasonOf .notFound)
          return false
        match newPlace (← files) (textOf path) with
        | .ok place =>
          putNode place (.file ByteArray.empty false)
          return true
        | .error error =>
          complainOf "touch" "cannot touch " path (reasonOf error)
          return false
      | .error error =>
        complainOf "touch" "cannot touch " path (reasonOf error)
        return false
    return statusOf all) 1

/-- The paths that lead to a path, and the path itself. -/
def leadingPaths (path : Bytes) : List Bytes :=
  let state := path.foldl (fun (state : List Bytes × Bytes) c =>
    let read := c :: state.2
    if c = '/' then
      (if state.2.isEmpty || state.2.head? = some '/' then state.1
        else state.2.reverse :: state.1, read)
    else (state.1, read)) ([], [])
  let last := if path.getLast? = some '/' then [] else [path]
  state.1.reverse ++ last

/-- Make a directory that must not be there yet. -/
def makeDirectory (path : Bytes) : Act (Except SystemError Unit) := do
  match ← findNode path with
  | .ok _ => return .error (.other "File exists")
  | .error .notFound =>
    match newPlace (← files) (textOf (withoutSlashes path)) with
    | .ok place =>
      putNode place (.directory [])
      return .ok ()
    | .error error => return .error error
  | .error error => return .error error

/-- Make directories. -/
def mkdir (arguments : List Bytes) : Act Nat :=
  let table : OptionTable :=
    { letters := "m:pvZ", names := [("mode", 'm'), ("parents", 'p'), ("verbose", 'v')] }
  withOptions "mkdir" table arguments (fun options => do
    if options.words.isEmpty then return ← misused "mkdir" 1 (bytes "missing operand")
    let all ← forAll options.words fun path => do
      let paths := if options.has 'p' then leadingPaths path else [path]
      let mut all := true
      for path in paths do
        if all && !(options.has 'p' && (← isDirectoryAt path)) then
          match ← makeDirectory path with
          | .ok _ =>
            if options.has 'v' then
              put (bytes "mkdir: created directory " ++ inQuotes path ++ ['\n'])
          | .error error =>
            -- A file on the way to a directory is no directory.
            let isOnTheWay := options.has 'p' && decide (some path ≠ paths.getLast?)
            let reason := if isOnTheWay && (← findNode path).isOk then .notDirectory else error
            complainOf "mkdir" "cannot create directory " path (reasonOf reason)
            all := false
      return all
    return statusOf all) 1

/-! ## Removing -/

/-- Remove an empty directory. -/
def removeDirectory (path : Bytes) : Act (Except SystemError Unit) := do
  match ← findNode path with
  | .ok (_, .directory (_ :: _)) => return .error (.other "Directory not empty")
  | .ok (place, .directory []) =>
    if lastName path = ['.'] then return .error (.other "Invalid argument")
    removeNode place
    return .ok ()
  | .ok _ => return .error .notDirectory
  | .error error => return .error error

/-- Remove empty directories. -/
def rmdir (arguments : List Bytes) : Act Nat :=
  let table : OptionTable :=
    { letters := "pvi"
      names := [("parents", 'p'), ("verbose", 'v'), ("ignore-fail-on-non-empty", 'i')] }
  withOptions "rmdir" table arguments (fun options => do
    if options.words.isEmpty then return ← misused "rmdir" 1 (bytes "missing operand")
    let all ← forAll options.words fun path => do
      let paths := if options.has 'p' then (leadingPaths (withoutSlashes path)).reverse else [path]
      let mut all := true
      for path in paths do
        if all then
          if options.has 'v' then
            put (bytes "rmdir: removing directory, " ++ inQuotes path ++ ['\n'])
          match ← removeDirectory path with
          | .ok _ => pure ()
          | .error error =>
            all := false
            unless options.has 'i' && error.message = "Directory not empty" do
              complainOf "rmdir" "failed to remove " path (reasonOf error)
      return all || options.has 'i'
    return statusOf all) 1

/-- The lines that tell of the removal of a node and of all that is in it. -/
def removalLines (path : Bytes) : Nat → Node → Bytes
  | 0, _ => []
  | depth + 1, .directory entries =>
    entries.flatMap (fun (name, node) => removalLines (inside path (bytes name)) depth node) ++
      bytes "removed directory " ++ inQuotes path ++ ['\n']
  | _, _ => bytes "removed " ++ inQuotes path ++ ['\n']

/-- Remove files, and directories if asked to. -/
def rm (arguments : List Bytes) : Act Nat :=
  let table : OptionTable :=
    { letters := "dfiIrRv"
      names := [("force", 'f'), ("recursive", 'r'), ("verbose", 'v'), ("dir", 'd')] }
  withOptions "rm" table arguments (fun options => do
    let isForced := options.has 'f'
    let descends := options.has 'r' || options.has 'R'
    if options.words.isEmpty then
      if isForced then return 0 else return ← misused "rm" 1 (bytes "missing operand")
    let all ← forAll options.words fun path => do
      let refuse (reason : Bytes) : Act Bool := do
        complainOf "rm" "cannot remove " path reason
        return false
      match ← findNode path with
      | .error .notFound | .error .notDirectory =>
        if isForced then return true
        else
          match ← findNode path with
          | .error error => refuse (reasonOf error)
          | .ok _ => return true
      | .error error => refuse (reasonOf error)
      | .ok (place, node) =>
        let isDotted := lastName path = ['.'] || lastName path = ['.', '.']
        match node with
        | .directory entries =>
          if !descends && !options.has 'd' then refuse (reasonOf .isDirectory)
          else if isDotted then
            complainAs "rm" (bytes "refusing to remove '.' or '..' directory: skipping " ++
              inQuotes path)
            return false
          else if !descends && !entries.isEmpty then refuse (bytes "Directory not empty")
          else
            removeNode place
            if options.has 'v' then put (removalLines (withoutSlashes path) 100 node)
            return true
        | .file .. =>
          removeNode place
          if options.has 'v' then put (removalLines path 1 node)
          return true
        | _ =>
          removeNode place
          return true
    return statusOf all) 1

/-! ## Marks -/

/-- Whether a file may be executed after a change of its mode, or none if the mode makes no
sense. -/
def changedMode? (mode : Bytes) (before : Bool) : Option Bool :=
  if !mode.isEmpty && mode.all Char.isDigit then
    if mode.all fun c => c < '8' then
      let value := mode.foldl (fun value c => 8 * value + (c.toNat - '0'.toNat)) 0
      if value < 4096 then some (decide (value &&& 0o111 ≠ 0)) else none
    else none
  else
    (mode.splitOn ',').foldlM (fun state clause => do
      let who := clause.takeWhile fun c => ['u', 'g', 'o', 'a'].contains c
      -- A change for some users only leaves the mark of the others.
      let isForAll := who.isEmpty || who.contains 'a' || ['u', 'g', 'o'].all who.contains
      let rest := clause.drop who.length
      if rest.isEmpty then none
      let rec go : Nat → Bool → Bytes → Option Bool
        | 0, state, _ | _, state, [] => some state
        | fuel + 1, state, sign :: rest =>
          if !(['+', '-', '='].contains sign) then none
          else
            let letters := rest.takeWhile fun c => ['r', 'w', 'x', 'X', 's', 't'].contains c
            let marks := letters.contains 'x' || (letters.contains 'X' && state)
            let next := match sign with
              | '+' => state || marks
              | '-' => state && !(marks && isForAll)
              | _ => if isForAll then marks else state || marks
            go fuel next (rest.drop letters.length)
      go (rest.length + 1) state rest) before

/-- Mark files as executable or not. -/
def chmod (arguments : List Bytes) : Act Nat := do
  -- A mode can begin with a minus sign.
  let isMode (word : Bytes) : Bool := match word with
    | '-' :: c :: rest => (c :: rest).all fun c => ['r', 'w', 'x', 'X', 's', 't'].contains c
    | _ => false
  let arguments := match arguments.span fun word => !isMode word with
    | (lead, mode :: rest) =>
      if lead.all fun word => word.head? = some '-' then lead ++ [['-', '-'], mode] ++ rest
      else arguments
    | _ => arguments
  let table : OptionTable :=
    { letters := "cfRv", names := [("recursive", 'R'), ("silent", 'f'), ("verbose", 'v')] }
  withOptions "chmod" table arguments (fun options => do
    match options.words with
    | [] => misused "chmod" 1 (bytes "missing operand")
    | [mode] => misused "chmod" 1 (bytes "missing operand after " ++ inQuotes mode)
    | mode :: paths =>
      if (changedMode? mode false).isNone then
        return ← misused "chmod" 1 (bytes "invalid mode: " ++ inQuotes mode)
      let all ← forAll paths fun path => do
        match ← findNode path with
        | .ok (place, .file content executable) =>
          putNode place (.file content ((changedMode? mode executable).getD executable))
          return true
        | .ok _ => return true
        | .error error =>
          unless options.has 'f' do complainOf "chmod" "cannot access " path (reasonOf error)
          return false
      return statusOf all) 1

end FlowCheck.Shell
