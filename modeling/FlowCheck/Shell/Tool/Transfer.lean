import FlowCheck.Shell.Tool.Files

/-!
# Programs that copy and move files

What goes into a directory keeps its name; otherwise the target is the new path itself.
-/

namespace FlowCheck.Shell

/-- What is copied or moved, and where to. -/
structure Transfer where
  sources : List Bytes
  target : Bytes
  /-- Whether the target is a directory that takes everything. -/
  collects : Bool

/-- The options of the programs that copy and move. -/
def transferOptions : OptionTable where
  letters := "abdfiHlLnpPrRsS:t:TuvxZ"
  names := [("recursive", 'r'), ("archive", 'a'), ("force", 'f'), ("verbose", 'v'),
    ("no-clobber", 'n'), ("target-directory", 't'), ("no-target-directory", 'T'), ("preserve", 'p'),
    ("update", 'u')]

/-- What the options of a program that copies or moves ask for. -/
def transferOf (tool : String) (options : ProgramOptions) : Act (Except Nat Transfer) := do
  match options.value? 't' with
  | some directory =>
    match options.words with
    | [] => return .error (← misused tool 1 (bytes "missing file operand"))
    | sources =>
      if ← isDirectoryAt directory then return .ok ⟨sources, directory, true⟩
      else
        let reason := match ← findNode directory with
          | .ok _ => .notDirectory
          | .error error => error
        complainOf tool "target directory " directory (reasonOf reason)
        return .error 1
  | none =>
    match options.words.reverse with
    | [] => return .error (← misused tool 1 (bytes "missing file operand"))
    | [source] =>
      return .error
        (← misused tool 1 (bytes "missing destination file operand after " ++ inQuotes source))
    | target :: sources =>
      let isDirectory ← isDirectoryAt target
      if options.has 'T' then
        match sources with
        | [source] => return .ok ⟨[source], target, false⟩
        | _ => return .error (← misused tool 1 (bytes "extra operand " ++ inQuotes target))
      else if isDirectory || sources.length = 1 then
        return .ok ⟨sources.reverse, target, isDirectory⟩
      else
        let reason := match ← findNode target with
          | .ok _ => .notDirectory
          | .error error => error
        complainOf tool "target " target (reasonOf reason)
        return .error 1

/-- Where a source goes. -/
def Transfer.path (transfer : Transfer) (source : Bytes) : Bytes :=
  if transfer.collects then inside transfer.target (lastName source) else transfer.target

/-- One directory merged with another, whose entries replace those of the first. The fuel bounds how
deep directories are nested. -/
def mergedNode : Nat → Node → Node → Node
  | fuel + 1, .directory old, .directory new =>
    .directory (new.foldl (fun entries (name, node) =>
      let node := match entries.lookup name with
        | some before => mergedNode fuel before node
        | none => node
      entries.filter (fun entry => entry.1 != name) ++ [(name, node)]) old)
  | _, .file _ executable, .file content _ => .file content executable
  | _, _, new => new

/-- Copy files, and directories if asked to. -/
def cp (arguments : List Bytes) : Act Nat :=
  withOptions "cp" transferOptions arguments (fun options => do
    match ← transferOf "cp" options with
    | .error status => return status
    | .ok transfer =>
      let descends := ['r', 'R', 'a'].any options.has
      let all ← forAll transfer.sources fun source => do
        let path := transfer.path source
        let refuse (message : Bytes) : Act Bool := do
          complainAs "cp" message
          return false
        match ← findNode source with
        | .error error =>
          refuse (bytes "cannot stat " ++ inQuotes source ++ bytes ": " ++ reasonOf error)
        | .ok (place, node) =>
          if node.isDirectory && !descends then
            return ← refuse (bytes "-r not specified; omitting directory " ++ inQuotes source)
          let node : Node := match node with
            | .program _ | .device _ => .file ByteArray.empty node.isFile
            | node => node
          match ← findNode path with
          | .ok (other, before) =>
            if options.has 'n' then return true
            if other = place then
              return ← refuse (inQuotes source ++ bytes " and " ++ inQuotes path ++
                bytes " are the same file")
            if node.isDirectory && place.isPrefixOf other then
              return ← refuse (bytes "cannot copy a directory, " ++ inQuotes source ++
                bytes ", into itself, " ++ inQuotes path)
            match before, node with
            | .directory _, .directory _ | .file .., .file .. =>
              putNode other (mergedNode 100 before node)
            | .device _, _ => pure ()
            | .directory _, _ =>
              return ← refuse (bytes "cannot overwrite directory " ++ inQuotes path ++
                bytes " with non-directory")
            | _, .directory _ =>
              return ← refuse (bytes "cannot overwrite non-directory " ++ inQuotes path ++
                bytes " with directory " ++ inQuotes source)
            | _, _ => putNode other node
          | .error error =>
            let trailing := path.getLast? = some '/' && !node.isDirectory
            let files ← files
            let found := if error = .notFound && !trailing then
                newPlace files (textOf (withoutSlashes path))
              else .error (if trailing then .notDirectory else error)
            match found with
            | .error error =>
              let act := if node.isDirectory then "cannot create directory "
                else "cannot create regular file "
              return ← refuse (bytes act ++ inQuotes path ++ bytes ": " ++ reasonOf error)
            | .ok other =>
              if node.isDirectory && place.isPrefixOf other then
                putNode other node
                return ← refuse (bytes "cannot copy a directory, " ++ inQuotes source ++
                  bytes ", into itself, " ++ inQuotes path)
              putNode other node
          if options.has 'v' then put (inQuotes source ++ bytes " -> " ++ inQuotes path ++ ['\n'])
          return true
      return statusOf all) 1

/-- Move files and directories. -/
def mv (arguments : List Bytes) : Act Nat :=
  withOptions "mv" transferOptions arguments (fun options => do
    match ← transferOf "mv" options with
    | .error status => return status
    | .ok transfer =>
      let all ← forAll transfer.sources fun source => do
        let path := transfer.path source
        let refuse (message : Bytes) : Act Bool := do
          complainAs "mv" message
          return false
        let cannot (reason : SystemError) : Act Bool :=
          refuse (bytes "cannot move " ++ inQuotes source ++ bytes " to " ++ inQuotes path ++
            bytes ": " ++ reasonOf reason)
        let move (place other : Place) (node : Node) : Act Bool := do
          if node.isDirectory && place.isPrefixOf other then
            refuse (bytes "cannot move " ++ inQuotes source ++
              bytes " to a subdirectory of itself, " ++ inQuotes path)
          else
            removeNode place
            putNode other node
            if options.has 'v' then
              put (bytes "renamed " ++ inQuotes source ++ bytes " -> " ++ inQuotes path ++ ['\n'])
            return true
        match ← findNode source with
        | .error error =>
          refuse (bytes "cannot stat " ++ inQuotes source ++ bytes ": " ++ reasonOf error)
        | .ok (place, node) =>
          match ← findNode path with
          | .ok (other, before) =>
            if options.has 'n' then return true
            if other = place then
              return ← refuse (inQuotes source ++ bytes " and " ++ inQuotes path ++
                bytes " are the same file")
            match before, node with
            | .directory (_ :: _), .directory _ => cannot (.other "Directory not empty")
            | .directory _, .directory _ => move place other node
            | .directory _, _ =>
              refuse (bytes "cannot overwrite directory " ++ inQuotes path ++
                bytes " with non-directory")
            | _, .directory _ =>
              refuse (bytes "cannot overwrite non-directory " ++ inQuotes path ++
                bytes " with directory " ++ inQuotes source)
            | _, _ => move place other node
          | .error .notFound =>
            if path.getLast? = some '/' && !node.isDirectory then cannot .notDirectory
            else
              match newPlace (← files) (textOf (withoutSlashes path)) with
              | .ok other => move place other node
              | .error error => cannot error
          | .error error => cannot error
      return statusOf all) 1

end FlowCheck.Shell
