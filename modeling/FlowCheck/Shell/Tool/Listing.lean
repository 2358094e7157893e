import FlowCheck.Shell.Tool.Files

/-!
# Listing and comparing files

A program that lists files and what is in directories, and one that finds the first difference of
two files.
-/

namespace FlowCheck.Shell

/-- How a directory is listed. -/
structure Listing where
  options : ProgramOptions

namespace Listing

/-- A name as it is listed. -/
def shown (listing : Listing) (name : Bytes) (node : Node) : Bytes :=
  let marksAll := listing.options.has 'F'
  let mark : Bytes := match node with
    | .directory _ => if marksAll || listing.options.has 'p' then ['/'] else []
    | .file _ true | .program _ => if marksAll then ['*'] else []
    | _ => []
  name ++ mark

/-- Names with their nodes in the order in which they are listed. -/
def sorted (listing : Listing) (entries : List (Bytes × Node)) : List (Bytes × Node) :=
  let size (node : Node) : Nat := match node with
    | .file content _ => content.size
    | .directory _ => 4096
    | _ => 0
  let byName := if listing.options.has 'U' || listing.options.has 'f' then entries
    else entries.mergeSort fun a b => bytesLe a.1 b.1
  let ordered := if listing.options.has 'S' then
      byName.mergeSort fun a b => decide (size b.2 ≤ size a.2)
    else byName
  if listing.options.has 'r' then ordered.reverse else ordered

/-- Listed names in lines. -/
def lines (listing : Listing) (entries : List (Bytes × Node)) : Bytes :=
  let names := entries.map fun (name, node) => listing.shown name node
  if listing.options.has 'm' && !names.isEmpty then (bytes ", ").intercalate names ++ ['\n']
  else joinLines '\n' names

/-- The entries of a directory that are listed. -/
def entries (listing : Listing) (above : Node) (node : Node) : List (Bytes × Node) :=
  match node with
  | .directory inner =>
    let all := listing.options.has 'a' || listing.options.has 'f'
    let named := inner.map fun (name, node) => (bytes name, node)
    let visible := if all || listing.options.has 'A' then named
      else named.filter fun entry => entry.1.head? ≠ some '.'
    listing.sorted ((if all then [(['.'], node), (['.', '.'], above)] else []) ++ visible)
  | _ => []

/-- The directories below one, each with its path, in the order in which they are listed. -/
def below (listing : Listing) : Nat → Bytes → Node → List (Bytes × Node)
  | 0, _, _ => []
  | depth + 1, path, node =>
    let inner := if listing.options.has 'R' then
        (listing.entries node node).flatMap fun (name, node) =>
          if node.isDirectory && name ≠ ['.'] && name ≠ ['.', '.'] then
            below listing depth (inside path name) node
          else []
      else []
    (path, node) :: inner

end Listing

/-- List files and what is in directories. -/
def ls (arguments : List Bytes) : Act Nat :=
  let table : OptionTable :=
    { letters := "1aAbBcCdfFghHiklLmnNopqQrRsStuUvxXZ"
      names := [("all", 'a'), ("almost-all", 'A'), ("directory", 'd'), ("recursive", 'R'),
        ("reverse", 'r'), ("classify", 'F'), ("color", 'N')] }
  withOptions "ls" table arguments (fun options => do
    let listing : Listing := ⟨options⟩
    let names := if options.words.isEmpty then [['.']] else options.words
    let mut plain : List (Bytes × Node) := []
    let mut directories : List (Bytes × Node) := []
    let mut all := true
    for name in names do
      match ← findNode name with
      | .ok (_, node) =>
        if node.isDirectory && !options.has 'd' then directories := directories ++ [(name, node)]
        else plain := plain ++ [(name, node)]
      | .error error =>
        complainOf "ls" "cannot access " name (reasonOf error)
        all := false
    put (listing.lines (listing.sorted plain))
    let titled := 1 < names.length || options.has 'R'
    let shown := (listing.sorted directories).flatMap fun (path, node) =>
      listing.below 100 path node
    let mut isFirst := plain.isEmpty
    for (path, node) in shown do
      let title := if titled then (if isFirst then [] else ['\n']) ++ path ++ [':', '\n'] else []
      put (title ++ listing.lines (listing.entries node node))
      isFirst := false
    return if all then 0 else 2) 2


/-! ## Comparing -/

/-- Compare two files byte by byte. -/
def cmp (arguments : List Bytes) : Act Nat :=
  let table : OptionTable :=
    { letters := "bi:ln:s", names := [("quiet", 's'), ("silent", 's'), ("bytes", 'n')] }
  withOptions "cmp" table arguments (fun options => do
    match options.words with
    | [] => misused "cmp" 2 (bytes "missing operand after 'cmp'")
    | first :: rest =>
      let second := rest.headD ['-']
      match ← readNamed first, ← readNamed second with
      | .error error, _ =>
        blameInput "cmp" first error
        return 2
      | _, .error error =>
        blameInput "cmp" second error
        return 2
      | .ok firstSupply, .ok secondSupply =>
        let a ← wholeOf firstSupply
        let b ← wholeOf secondSupply
        if a = b then return 0
        let same := ((a.zip b).takeWhile fun (c, d) => c = d).length
        let line := (a.take same).count '\n'
        unless options.has 's' do
          if same < a.length && same < b.length then
            put (first ++ [' '] ++ second ++ bytes s!" differ: char {same + 1}, line {line + 1}\n")
          else
            let short := if a.length = same then first else second
            let isMid := (a.take same).getLast? ≠ some '\n'
            let place := if same = 0 then " which is empty"
              else if isMid then s!" after byte {same}, in line {line + 1}"
              else s!" after byte {same}, line {line}"
            complainAs "cmp" (bytes "EOF on " ++ short ++ bytes place)
        return 1) 2

end FlowCheck.Shell
