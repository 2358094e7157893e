import FlowCheck.Failure
import FlowCheck.Files.Path

/-!
# File trees

A tree of files, and what a path leads to in it. A place in the tree is the list of names that lead
to it from the root, so it has one form only; a path is followed piece by piece, each from a
directory.
-/

namespace FlowCheck

/-- What a tree holds at a place. -/
inductive Node where
  | file (content : ByteArray) (executable : Bool)
  /-- A program that belongs to the system, by its name. -/
  | program (name : String)
  /-- A device that swallows what is written. Reading it gives nothing, or one byte for ever. -/
  | device (gives : Option UInt8)
  | directory (entries : List (String × Node))

/-- A place in a tree: the names that lead to it from the root. -/
abbrev Place := List String

/-- The canonical path of a place. -/
def Place.path (place : Place) : String :=
  "/" ++ "/".intercalate place

namespace Node

/-- What is at a place. -/
def get? : Node → Place → Option Node
  | node, [] => some node
  | .directory entries, name :: rest =>
    match entries.lookup name with
    | some node => node.get? rest
    | none => none
  | _, _ :: _ => none

/-- A tree with a node at a place; directories on the way are made. What is not a directory
stays. -/
def insert (node : Node) : Node → Place → Node
  | _, [] => node
  | .directory entries, name :: rest =>
    let inner := insert node ((entries.lookup name).getD (.directory [])) rest
    .directory ((entries.filter fun entry => entry.1 != name) ++ [(name, inner)])
  | other, _ :: _ => other

/-- A tree without what is at a place. -/
def erase : Node → Place → Node
  | .directory entries, name :: rest =>
    match rest, entries.lookup name with
    | [], _ => .directory (entries.filter fun entry => entry.1 != name)
    | rest, some inner =>
      let inner := inner.erase rest
      .directory (entries.map fun entry => if entry.1 = name then (name, inner) else entry)
    | _, none => .directory entries
  | node, _ => node

/-- Whether this is a directory. -/
def isDirectory : Node → Bool
  | .directory _ => true
  | _ => false

/-- Whether this is a regular file. -/
def isFile : Node → Bool
  | .file .. | .program _ => true
  | _ => false

/-- The text that reading gives. -/
def read : Node → Except SystemError String
  | .file content _ =>
    match String.fromUTF8? content with
    | some text => .ok text
    | none => .error .invalidText
  | .program _ => .error .invalidText
  | .device none => .ok ""
  | .device (some _) => .error (.other "the file has no end")
  | .directory _ => .error .isDirectory

end Node

/-- The longest name, and the length that no path may reach, in bytes. -/
def longestName : Nat := 255

@[inherit_doc longestName]
def pathLimit : Nat := 4096

/-- A tree of files, seen from a directory in it. -/
structure Files where
  root : Node
  /-- Where relative paths start. -/
  directory : Place := []

namespace Files

/-- Follow one piece of a path. -/
def step (files : Files) (place : Place) (piece : String) : Except SystemError Place :=
  match files.root.get? place with
  | some (.directory entries) =>
    if !Path.isStep piece then .ok place
    else if piece = ".." then .ok place.dropLast
    else if longestName < piece.utf8ByteSize then .error .nameTooLong
    else if (entries.lookup piece).isSome then .ok (place ++ [piece])
    else .error .notFound
  | some _ => .error .notDirectory
  | none => .error .notFound

/-- The place that a path leads to. -/
def locate (files : Files) (path : String) : Except SystemError Place :=
  if path.isEmpty then .error .notFound
  else if path.toList.contains '\x00' then .error .nulInPath
  else if pathLimit ≤ path.utf8ByteSize then .error .nameTooLong
  else (Path.pieces path).foldlM files.step (if Path.isAbsolute path then [] else files.directory)

/-- What a path leads to. -/
def node (files : Files) (path : String) : Except SystemError Node := do
  match files.root.get? (← files.locate path) with
  | some node => .ok node
  | none => .error .notFound

/-- Whether a path leads to anything. -/
def has (files : Files) (path : String) : Bool :=
  match files.node path with
  | .ok _ => true
  | .error _ => false

/-- Whether a path leads to a regular file. -/
def hasFile (files : Files) (path : String) : Bool :=
  match files.node path with
  | .ok node => node.isFile
  | .error _ => false

/-- Whether a path leads to a directory. -/
def hasDirectory (files : Files) (path : String) : Bool :=
  match files.node path with
  | .ok node => node.isDirectory
  | .error _ => false

/-- The canonical form of a path. -/
def canonical (files : Files) (path : String) : Except SystemError String :=
  return Place.path (← files.locate path)

/-- The text of a file. -/
def read (files : Files) (path : String) : Except SystemError String := do
  (← files.node path).read

end Files

end FlowCheck
