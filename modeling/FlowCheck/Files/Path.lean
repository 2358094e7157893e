/-!
# Paths

A path is a text. These operations only look at the text, so a path keeps the form in which it was
given: dots, double slashes and all. What a path leads to is for the file tree to say.
-/

namespace FlowCheck.Path

/-- The pieces of a text between its slashes; there is always one. -/
def split : List Char → List (List Char)
  | [] => [[]]
  | c :: rest =>
    if c = '/' then [] :: split rest
    else
      match split rest with
      | piece :: more => (c :: piece) :: more
      | [] => [[c]]

/-- The pieces of a path between its slashes. -/
def pieces (path : String) : List String :=
  (split path.toList).map String.ofList

/-- Whether a path starts at the root. -/
def isAbsolute (path : String) : Bool :=
  path.toList.head? == some '/'

/-- A path followed by another one. An absolute path stands for itself. -/
def join (base path : String) : String :=
  if isAbsolute path || base.isEmpty then path
  else if base.toList.getLast? == some '/' then base ++ path
  else base ++ "/" ++ path

/-- Whether a piece leads anywhere. -/
def isStep (piece : String) : Bool :=
  piece != "" && piece != "."

/-- Where the steps of a path start. -/
inductive Lead where
  | root
  /-- A dot at the beginning of a relative path. -/
  | dot
  | relative
  deriving Repr, DecidableEq

/-- A path as its start and the pieces after it. -/
def parts (path : String) : Lead × List String :=
  match pieces path with
  | "." :: rest => (.dot, rest)
  | "" :: piece :: rest => (.root, piece :: rest)
  | pieces => (.relative, pieces)

/-- The path with a start and pieces. -/
def Lead.path (lead : Lead) (pieces : List String) : String :=
  match lead with
  | .root => "/" ++ "/".intercalate pieces
  | .dot => "/".intercalate ("." :: pieces)
  | .relative => "/".intercalate pieces

/-- Pieces, last first, from the last step on. -/
def trim (reversed : List String) : List String :=
  reversed.dropWhile fun piece => !isStep piece

/-- The paths above one whose pieces are given last first, the nearest first. -/
def above (lead : Lead) : List String → List String
  | [] => if lead = .dot then [""] else []
  | piece :: before =>
    if isStep piece then lead.path (trim before).reverse :: above lead before
    else above lead before

/-- A path, as it is, and all paths above it. -/
def ancestors (path : String) : List String :=
  path :: above (parts path).1 (parts path).2.reverse

/-- The path above. -/
def parent? (path : String) : Option String :=
  (above (parts path).1 (parts path).2.reverse).head?

/-- The name at the end of a path. -/
def fileName? (path : String) : Option String :=
  (trim (parts path).2.reverse).head?.filter fun name => name != ".."

/-- The steps of a path, its start counting as one unless the path is plainly relative. -/
def stepCount (path : String) : Nat :=
  (if (parts path).1 = .relative then 0 else 1) + ((parts path).2.filter isStep).length

/-- The rest of a canonical path below another canonical path. -/
def below? (base path : String) : Option String :=
  let top := (pieces base).filter isStep
  let all := (pieces path).filter isStep
  if top.isPrefixOf all then some ("/".intercalate (all.drop top.length)) else none

end FlowCheck.Path
