import FlowCheck.Shell.Tool.Files

/-!
# Programs that show paths

Parts of paths, and the canonical forms of paths.
-/

namespace FlowCheck.Shell

/-- Show the last names of paths. -/
def basename (arguments : List Bytes) : Act Nat :=
  let table : OptionTable :=
    { letters := "as:z", strict := true
      names := [("multiple", 'a'), ("suffix", 's'), ("zero", 'z')] }
  withOptions "basename" table arguments (fun options => do
    let ending := if options.has 'z' then '\x00' else '\n'
    let shown (suffix path : Bytes) : Bytes :=
      let name := lastName path
      let cut := name.take (name.length - suffix.length)
      let isCut := !suffix.isEmpty && suffix.isSuffixOf name && !cut.isEmpty
      (if isCut then cut else name) ++ [ending]
    let several := options.has 'a' || options.has 's'
    match options.words with
    | [] => misused "basename" 1 (bytes "missing operand")
    | [path] =>
      put (shown ((options.value? 's').getD []) path)
      return 0
    | paths =>
      if several then
        put (paths.flatMap (shown ((options.value? 's').getD [])))
        return 0
      else
        match paths with
        | [path, suffix] =>
          put (shown suffix path)
          return 0
        | _ => misused "basename" 1 (bytes "extra operand " ++ inQuotes ((paths[2]?).getD []))) 1

/-- Show paths without their last names. -/
def dirname (arguments : List Bytes) : Act Nat :=
  let table : OptionTable := { letters := "z", names := [("zero", 'z')] }
  withOptions "dirname" table arguments (fun options => do
    if options.words.isEmpty then return ← misused "dirname" 1 (bytes "missing operand")
    let ending := if options.has 'z' then '\x00' else '\n'
    for path in options.words do
      let above := (withoutSlashes path).reverse.dropWhile (· ≠ '/')
      let trimmed := (above.dropWhile (· = '/')).reverse
      put ((if !trimmed.isEmpty then trimmed else if above.isEmpty then ['.'] else ['/']) ++
        [ending])
    return 0) 1

/-- Show the canonical forms of paths. Only the last name may lead nowhere, unless it must exist. -/
def canonicalPaths (tool : String) (isQuiet : Bool) (mustExist mayMiss : Bool)
    (paths : List Bytes) : Act Nat := do
  let all ← forAll paths fun path => do
    let files ← files
    let found : Except SystemError Place :=
      match files.locate (textOf path) with
      | .ok place => .ok place
      | .error .notFound =>
        if mustExist then .error .notFound
        else
          match newPlace files (textOf (withoutSlashes path)) with
          | .ok place => .ok place
          | .error error =>
            if mayMiss then
              let start := if path.head? = some '/' then [] else files.directory
              let steps := (Path.pieces (textOf path)).filter Path.isStep
              .ok (steps.foldl (fun place step =>
                if step = ".." then place.dropLast else place ++ [step]) start)
            else .error error
      | .error error => .error error
    match found with
    | .ok place =>
      put (bytes place.path ++ ['\n'])
      return true
    | .error error =>
      unless isQuiet do blameInput tool path error
      return false
  return statusOf all

/-- Show the canonical forms of paths. -/
def realpath (arguments : List Bytes) : Act Nat :=
  let table : OptionTable :=
    { letters := "eLmPqsz"
      names := [("canonicalize-existing", 'e'), ("canonicalize-missing", 'm'), ("quiet", 'q'),
        ("no-symlinks", 's')] }
  withOptions "realpath" table arguments (fun options => do
    if options.words.isEmpty then misused "realpath" 1 (bytes "missing operand")
    else
      canonicalPaths "realpath" (options.has 'q') (options.has 'e') (options.has 'm')
        options.words) 1

/-- Show where links lead; there are none, so only canonical forms can be shown. -/
def readlink (arguments : List Bytes) : Act Nat :=
  let table : OptionTable :=
    { letters := "efmnqsvz"
      names := [("canonicalize", 'f'), ("canonicalize-existing", 'e'),
        ("canonicalize-missing", 'm')] }
  withOptions "readlink" table arguments (fun options => do
    if options.words.isEmpty then return ← misused "readlink" 1 (bytes "missing operand")
    match options.last? ['e', 'f', 'm'] with
    | some letter => canonicalPaths "readlink" true (letter = 'e') (letter = 'm') options.words
    | none => return 1) 1

/-- Show the current directory. -/
def pwd (arguments : List Bytes) : Act Nat :=
  let table : OptionTable := { letters := "LP" }
  withOptions "pwd" table arguments (fun options => do
    unless options.words.isEmpty do complainAs "pwd" (bytes "ignoring non-option arguments")
    put (bytes (← files).directory.path ++ ['\n'])
    return 0) 1

end FlowCheck.Shell
