import FlowCheck.Shell.Filter
import FlowCheck.Shell.Regex

/-!
# Searching lines

A program that shows the lines of its inputs in which an expression occurs.
-/

namespace FlowCheck.Shell

/-- What is searched for, and what is shown of it. -/
structure LineSearch where
  expression : Regex
  wholeLine : Bool := false
  wholeWord : Bool := false
  inverted : Bool := false
  /-- The byte that ends lines. -/
  ending : Char := '\n'
  /-- How many lines are enough. -/
  most : Option Nat := none
  numbers : Bool := false
  offsets : Bool := false
  partsOnly : Bool := false
  /-- How many lines are shown before and behind one that is found, if any. -/
  before : Nat := 0
  behind : Nat := 0
  parted : Bool := false

namespace LineSearch

/-- The first match in a line from a spot on. -/
def next? (search : LineSearch) (line : Bytes) (spot : Spot) : Option Regex.Match :=
  let accepts (start stop : Spot) : Bool :=
    if search.wholeLine then start.before.isNone && stop.rest.isEmpty
    else !search.wholeWord ||
      (!start.before.any Regex.isWordByte && !stop.rest.head?.any Regex.isWordByte)
  Regex.searchFrom accepts line search.expression (line.length + 1) spot

/-- Whether a line is one of those that are searched for. -/
def selects (search : LineSearch) (line : Bytes) : Bool :=
  (search.next? line (Regex.beginning line)).isSome != search.inverted

/-- The parts of a line that match, each with its place. Parts without bytes are left out. -/
def parts (search : LineSearch) (line : Bytes) : Nat → Spot → List (Nat × Bytes)
  | 0, _ => []
  | fuel + 1, spot =>
    match search.next? line spot with
    | none => []
    | some found =>
      let part := found.group line 0
      if part.isEmpty then
        match found.stop.rest with
        | [] => []
        | c :: rest => search.parts line fuel ⟨found.stop.index + 1, some c, rest, []⟩
      else (found.start, part) :: search.parts line fuel { found.stop with groups := [] }

/-- A line with its place among all lines: its number, the offset of its first byte, and whether it
is one of those that are searched for. -/
structure Found where
  line : Bytes
  number : Nat
  offset : Nat
  isFound : Bool

/-- The lines of a text up to the last one that can be of interest. -/
def examine (search : LineSearch) (text : Bytes) : List Found :=
  let lines := cutLines search.ending text
  let state := lines.foldl (fun (state : List Found × Nat × Nat × Nat) line =>
    let (done, number, offset, count) := state
    let isFound := !search.most.any (· ≤ count) && search.selects line
    (⟨line, number, offset, isFound⟩ :: done, number + 1, offset + line.length + 1,
      if isFound then count + 1 else count)) ([], 1, 0, 0)
  state.1.reverse

/-- What stands in front of a shown line. -/
def lead (search : LineSearch) (title : Option Bytes) (found : Found) (sign : Char) (offset : Nat) :
    Bytes :=
  (title.map fun title => title ++ [sign]).getD [] ++
    (if search.numbers then digits found.number ++ [sign] else []) ++
    (if search.offsets then digits offset ++ [sign] else [])

/-- What is shown of a text: the lines that are found and those around them. -/
def shownText (search : LineSearch) (title : Option Bytes) (lines : List Found) : Bytes :=
  let hits := (lines.filter Found.isFound).map Found.number
  let isNear (number : Nat) : Bool := search.before + search.behind ≠ 0 && hits.any fun hit =>
    hit ≤ number + search.before && number ≤ hit + search.behind
  let shown := lines.filter fun found => found.isFound || isNear found.number
  -- Behind the last line that is enough, no line is of interest that would be found again.
  let shown := if search.most = some hits.length then
      let last := hits.getLast?.getD 0
      let (upTo, behind) := shown.partition fun found => found.number ≤ last
      upTo ++ behind.takeWhile fun found => !search.selects found.line
    else shown
  let text (found : Found) : Bytes :=
    if search.partsOnly then
      if search.inverted || !found.isFound then []
      else
        let parts := search.parts found.line (found.line.length + 1) (Regex.beginning found.line)
        parts.flatMap fun (start, part) =>
          search.lead title found ':' (found.offset + start) ++ part ++ [search.ending]
    else
      search.lead title found (if found.isFound then ':' else '-') found.offset ++ found.line ++
        [search.ending]
  (shown.foldl (fun (state : Bytes × Option Nat) found =>
    let isApart := search.parted && state.2.any (· + 1 < found.number)
    let content := (if isApart then ['-', '-', '\n'] else []) ++ text found
    (content.reverseAux state.1, some found.number)) (([] : Bytes), none)).1.reverse

end LineSearch

/-- The options of the program that searches. -/
def searchOptions : OptionTable where
  letters := "EFGe:f:iyvwxclLqsonHhbm:A:B:C:arRzIU0123456789"
  names := [("extended-regexp", 'E'), ("fixed-strings", 'F'), ("basic-regexp", 'G'),
    ("regexp", 'e'), ("file", 'f'), ("ignore-case", 'i'), ("invert-match", 'v'), ("word-regexp", 'w'),
    ("line-regexp", 'x'), ("count", 'c'), ("files-with-matches", 'l'), ("files-without-match", 'L'),
    ("quiet", 'q'), ("silent", 'q'), ("no-messages", 's'), ("only-matching", 'o'),
    ("line-number", 'n'), ("with-filename", 'H'), ("no-filename", 'h'), ("byte-offset", 'b'),
    ("max-count", 'm'), ("after-context", 'A'), ("before-context", 'B'), ("context", 'C'),
    ("text", 'a'), ("recursive", 'r'), ("dereference-recursive", 'R'), ("null-data", 'z'),
    ("color", 'U'), ("colour", 'U'), ("binary", 'U'), ("line-buffered", 'U')]

/-- Complain about how the searching program is used. -/
def misusedSearch (tool : String) (reason : Bytes) : Act Nat := do
  let usage := s!"Usage: {tool} [OPTION]... PATTERNS [FILE]...\n" ++
    s!"Try '{tool} --help' for more information.\n"
  let lead := if reason.isEmpty then [] else bytes s!"{tool}: " ++ reason ++ ['\n']
  let _ ← writeTo 2 (lead ++ bytes usage)
  return 2

/-- The regular files below a directory, by their paths. -/
def filesBelow : Nat → Bytes → Node → List Bytes
  | 0, _, _ => []
  | depth + 1, path, .directory entries =>
    entries.flatMap fun (name, node) => filesBelow depth (path ++ '/' :: bytes name) node
  | _, path, node => if node.isFile then [path] else []

/-- The inputs that are searched: a directory stands for the files in it, if it may. -/
def searchedNames (options : ProgramOptions) : Act (List Bytes) := do
  if !(options.has 'r' || options.has 'R') then
    return if options.words.isEmpty then [['-']] else options.words
  let files ← files
  let below (name : Bytes) : List Bytes :=
    match files.node (textOf name) with
    | .ok node => filesBelow 100 (if name.getLast? = some '/' then name.dropLast else name) node
    | .error _ => [name]
  if options.words.isEmpty then return (below ['.']).map (·.drop 2)
  else return options.words.flatMap below

/-- Search the inputs of the program. -/
def searchInputs (tool : String) (options : ProgramOptions) (search : LineSearch) : Act Nat := do
  let isQuiet := options.has 'q'
  let names ← searchedNames options
  let several := 1 < options.words.length || options.has 'r' || options.has 'R'
  let titled : Bool := (options.last? ['H', 'h']).elim several (· == 'H')
  let stopsEarly := isQuiet || options.has 'l' || options.has 'L' || search.most.isSome
  let mut found := false
  let mut all := true
  for name in names do
    if isQuiet && found then break
    let title := if name = ['-'] then bytes "(standard input)" else name
    let shownTitle := if titled then some title else none
    match ← readNamed name with
    | .error error =>
      unless options.has 's' do blameInput tool name error
      all := false
    | .ok supply =>
      let text ← match supply.whole? with
        | some text => pure text
        | none =>
          -- All that an endless supply has to show is in its beginning.
          let start := supply.content ++ Supply.repeated 2 supply.cycle
          let enough := (search.most.getD 1) + start.count '\n'
          let text := (if stopsEarly then supply.linesWithin? enough else none).getD []
          if (search.examine text).any LineSearch.Found.isFound then pure text else throw .stuck
      let lines := search.examine text
      let count := (lines.filter LineSearch.Found.isFound).length
      if 0 < count then found := true
      if isQuiet then pure ()
      else if options.has 'l' || options.has 'L' then
        if decide (0 < count) == options.has 'l' then put (title ++ ['\n'])
      else if options.has 'c' then
        put ((shownTitle.map fun title => title ++ [':']).getD [] ++ digits count ++ ['\n'])
      else if 0 < count && text.contains '\x00' && !options.has 'a' && !options.has 'z' then
        complainAs tool (title ++ bytes ": binary file matches")
      else put (search.shownText shownTitle lines)
  return if isQuiet && found then 0 else if !all then 2 else if found then 0 else 1

/-- Show the lines of inputs in which an expression occurs. -/
def grep (extended isFixed : Bool) (arguments : List Bytes) : Act Nat := do
  let tool := "grep"
  match searchOptions.read (arguments.length + 1) {} arguments with
  | .error reason => misusedSearch tool (bytes reason)
  | .ok options =>
    let kind := options.last? ['E', 'F', 'G']
    let extended := kind = some 'E' || (kind.isNone && extended)
    let isFixed := kind = some 'F' || (kind.isNone && isFixed)
    let dialect : Regex.Dialect :=
      { extended, ignoresCase := options.has 'i' || options.has 'y', lenient := true }
    let mut patterns : List Bytes := []
    let mut words := options.words
    for (letter, value) in options.given do
      if letter = 'e' then patterns := patterns ++ splitLines value
      if letter = 'f' then
        match ← readNamed value with
        | .ok supply => patterns := patterns ++ cutLines '\n' (← wholeOf supply)
        | .error error =>
          blameInput tool value error
          return 2
    unless options.has 'e' || options.has 'f' do
      match words with
      | [] => return ← misusedSearch tool []
      | pattern :: rest =>
        patterns := splitLines pattern
        words := rest
    let number? (letter : Char) : Except Bytes (Option Nat) :=
      match options.value? letter with
      | none => .ok none
      | some text =>
        if !text.isEmpty && text.all Char.isDigit then .ok (some (naturalOf text)) else .error text
    let parsed := patterns.mapM fun pattern =>
      if isFixed then .ok (Regex.fixed dialect pattern) else Regex.parse dialect pattern
    match parsed, number? 'm', number? 'A', number? 'B', number? 'C' with
    | .error reason, _, _, _, _ =>
      complainAs tool (bytes reason)
      return 2
    | _, .error _, _, _, _ =>
      complainAs tool (bytes "invalid max count")
      return 2
    | _, _, .error text, _, _ | _, _, _, .error text, _ | _, _, _, _, .error text =>
      complainAs tool (text ++ bytes ": invalid context length argument")
      return 2
    | .ok expressions, .ok most, .ok behind, .ok before, .ok around =>
      let shortly := (options.given.map Prod.fst).filter Char.isDigit
      let shortly := if shortly.isEmpty then none else some (naturalOf shortly)
      let context (own : Option Nat) : Nat := (own.or (around.or shortly)).getD 0
      let search : LineSearch :=
        { expression := match expressions with
            | [] => .one fun _ => false
            | first :: rest => rest.foldl .either first
          wholeLine := options.has 'x'
          wholeWord := options.has 'w'
          -- Nothing at all is found in no line.
          inverted := options.has 'v'
          ending := if options.has 'z' then '\x00' else '\n'
          most, numbers := options.has 'n', offsets := options.has 'b'
          partsOnly := options.has 'o'
          before := if options.has 'o' then 0 else context before
          behind := if options.has 'o' then 0 else context behind
          parted := (context before) + (context behind) ≠ 0 }
      searchInputs tool { options with words } search
where
  /-- The lines of a text, which ends with a line. -/
  splitLines (text : Bytes) : List Bytes :=
    match cutLines '\n' (text ++ ['\n']) with
    | [] => [[]]
    | lines => lines

end FlowCheck.Shell
