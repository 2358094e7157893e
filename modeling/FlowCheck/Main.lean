import FlowCheck.Command.Dispatch
import FlowCheck.Files.System

/-!
# The command line

The outer layer of the program: it reads the files around the current directory and around the paths
on the command line, carries out the command on them, and writes what it leaves.
-/

namespace FlowCheck

/-- How deep below a directory files are read. -/
def readingDepth : Nat := 8

/-- The node of a file with some content; what begins like a script can be started. -/
def fileNode (content : ByteArray) : Node :=
  .file content (content.toList.take 2 = [0x23, 0x21])

/-- The node that a path leads to. -/
def readNode : Nat → String → IO (Option Node)
  | 0, _ => return none
  | depth + 1, path => do
    try
      let place ← IO.FS.realPath path
      if ← place.isDir then
        let mut entries := []
        for entry in ← place.readDir do
          if let some node ← readNode depth (Path.join path entry.fileName) then
            entries := (entry.fileName, node) :: entries
        return some (.directory entries.reverse)
      else return some (fileNode (← IO.FS.readBinFile path))
    catch _ => return none

/-- A tree with what a path leads to, unless something is there already. -/
def withPath (depth : Nat) (root : Node) (path : String) : IO Node := do
  let place := (Path.pieces path).filter Path.isStep
  if (root.get? place).isSome then return root
  match ← readNode depth path with
  | some node => return node.insert root place
  | none => return root

/-- Whether a path leads to anything. -/
def leadsSomewhere (path : String) : IO Bool := do
  try
    let _ ← IO.FS.realPath path
    return true
  catch _ => return false

/-- A tree with the project that a path belongs to, and with all that a search from the path upwards
can find. -/
def withSurroundings (root : Node) (path : String) : IO Node := do
  let mut root := root
  let directories := Path.ancestors path
  for directory in directories do
    if ← leadsSomewhere (Path.join directory projectMarker) then
      root ← withPath readingDepth root directory
  root ← withPath readingDepth root path
  for directory in directories do
    root ← withPath 1 root (Path.join directory repositoryMarker)
    root ← withPath 2 root (Path.join directory settingsDirectory)
  return root

/-- What the program finds where it is started. -/
def findHost (words : List String) : IO Host := do
  let directory := (← IO.currentDir).toString
  let home ← IO.getEnv "HOME"
  let mut root := systemRoot Shell.programNames
  for word in words do
    let path := Path.join directory word
    if ← leadsSomewhere path then
      root ← withSurroundings root (← IO.FS.realPath path).toString
  root ← withSurroundings root directory
  for home in home.toList do
    root ← withPath 2 root (Path.join home settingsDirectory)
  let input ←
    if words.contains "--stdin" then (← IO.getStdin).readBinToEnd
    else pure ByteArray.empty
  return {
    files := ⟨root, (Path.pieces directory).filter Path.isStep⟩
    home
    searchPath := ← IO.getEnv "PATH"
    checker := ← IO.getEnv "FLOWTC_FLOW_PATH"
    input
    colours := (← (← IO.getStdout).isTty) && (← IO.getEnv "NO_COLOR").isNone }

end FlowCheck

/-- Carry out the command line. -/
def main (words : List String) : IO UInt32 := do
  let host ← FlowCheck.findHost words
  let run := host.execute host.run words
  (← IO.getStderr).putStr run.written.errors
  (← IO.getStdout).putStr run.written.output
  return run.exitCode.toUInt32
