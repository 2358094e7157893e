import FlowCheck.Shell.Pattern
import FlowCheck.Shell.World

/-!
# Fields

The pieces that a word is expanded to, and what becomes of them: fields, between which the bytes
that separate words have been taken out, or a single text. Fields that are patterns become the paths
that match them.
-/

namespace FlowCheck.Shell

/-- A piece of an expanded word. -/
inductive Piece where
  /-- Some bytes. They stand for themselves if they are quoted, and can be cut into fields if they
  were not written in the script. -/
  | content (content : Bytes) (quoted cuts : Bool)
  /-- The end of a field. -/
  | boundary

/-- The text that pieces make when they are not cut. -/
def textOfPieces (between : Bytes) (pieces : List Piece) : Bytes :=
  pieces.flatMap fun
    | .content content _ _ => content
    | .boundary => between

/-- The bytes of pieces that are not cut, each with whether it is quoted. -/
def markedOfPieces (between : Bytes) (pieces : List Piece) : Marked :=
  pieces.flatMap fun
    | .content content quoted _ => content.map fun c => (c, quoted)
    | .boundary => between.map fun c => (c, false)

/-- How far fields have been cut. Fields and bytes come last first. -/
structure Cutting where
  fields : List Marked := []
  /-- The field that has been begun. -/
  current : Option Marked := none
  /-- Whether blanks have ended the last field, so that one separator may still follow. -/
  afterBlanks : Bool := false

namespace Cutting

/-- End the field that has been begun. -/
def finish (cutting : Cutting) (afterBlanks : Bool) : Cutting :=
  match cutting.current with
  | some field => ⟨field.reverse :: cutting.fields, none, afterBlanks⟩
  | none => cutting

/-- Go on with a byte of a field. -/
def add (cutting : Cutting) (quoted : Bool) (c : Char) : Cutting :=
  { cutting with current := some ((c, quoted) :: cutting.current.getD []), afterBlanks := false }

/-- Go on with a byte at which a field may be cut. -/
def addOpen (separators : Bytes) (cutting : Cutting) (c : Char) : Cutting :=
  if !separators.contains c then cutting.add false c
  else if c = ' ' || c = '\t' || c = '\n' then cutting.finish true
  else if cutting.current.isNone && cutting.afterBlanks then { cutting with afterBlanks := false }
  else { cutting with current := some (cutting.current.getD []) }.finish false

/-- Go on with a piece. -/
def addPiece (separators : Bytes) (cutting : Cutting) : Piece → Cutting
  | .boundary => { cutting.finish false with afterBlanks := false }
  | .content content quoted cuts =>
    if cuts && !quoted then content.foldl (addOpen separators) cutting
    else
      let begun := if quoted then { cutting with current := some (cutting.current.getD []) }
        else cutting
      content.foldl (fun cutting c => cutting.add quoted c) begun

end Cutting

/-- The fields that pieces make. -/
def fieldsOf (separators : Bytes) (pieces : List Piece) : List Marked :=
  ((pieces.foldl (Cutting.addPiece separators) {}).finish false).fields.reverse

/-- Whether bytes come before others in order. -/
def bytesLe (a b : Bytes) : Bool :=
  match a, b with
  | [], _ => true
  | _ :: _, [] => false
  | c :: a, d :: b => if c = d then bytesLe a b else c < d

/-- The names in a directory, in order. -/
def namesIn (files : Files) (path : Bytes) : List Bytes :=
  match files.node (textOf path) with
  | .ok (.directory entries) => (entries.map fun entry => bytes entry.1).mergeSort bytesLe
  | _ => []

/-- A pattern cut at its first slashes: what stands before them, the slashes, and the rest. -/
def splitPattern (pattern : Marked) : Marked × Bytes × Marked :=
  let first := pattern.takeWhile fun (c, _) => c ≠ '/'
  let rest := pattern.drop first.length
  let slashes := (rest.takeWhile fun (c, _) => c = '/').map Prod.fst
  (first, slashes, rest.drop slashes.length)

/-- The paths that begin with some path and go on as a pattern tells. -/
def pathsFrom (files : Files) : Nat → Bytes → Marked → List Bytes
  | 0, _, _ => []
  | fuel + 1, path, pattern =>
    let (first, slashes, rest) := splitPattern pattern
    let isLast := rest.isEmpty
    let goOn (next : Bytes) : List Bytes :=
      if slashes.isEmpty then (if files.has (textOf next) then [next] else [])
      else if files.hasDirectory (textOf next) || first.isEmpty then
        let next := next ++ slashes
        if isLast then [next] else pathsFrom files fuel next rest
      else []
    if !first.isPattern then
      let plain := (first.filter fun (c, quoted) => quoted || c ≠ '\\').map Prod.fst
      goOn (path ++ plain)
    else
      let glob := first.glob
      let showsHidden := first.head?.any fun (c, _) => c = '.'
      let names := namesIn files (if path.isEmpty then ['.'] else path)
      let names := if showsHidden then ['.'] :: ['.', '.'] :: names else names
      let matching := names.filter fun name =>
        (showsHidden || name.head? ≠ some '.') && Glob.matchAll glob name
      matching.flatMap fun name => goOn (path ++ name)

/-- The paths that a field matches, or the field itself if it is no pattern or matches none. -/
def pathsOf (files : Files) (field : Marked) : List Bytes :=
  let plain := field.map Prod.fst
  if !field.isPattern then [plain]
  else
    match pathsFrom files (field.length + 1) [] field with
    | [] => [plain]
    | paths => paths.mergeSort bytesLe

end FlowCheck.Shell
