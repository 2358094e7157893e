import FlowCheck.Shell.Filter

/-!
# Programs that show inputs

Programs that write their inputs as they are, or parts of them, or count what is in them.
-/

namespace FlowCheck.Shell

/-- Write what is read from a supply, without end if the supply has none. -/
def pass (supply : Supply) : Act Unit := do
  put supply.content
  if supply.isEndless then writeForever supply.cycle

/-- A byte as `cat` makes it visible. -/
def visibleByte (c : Char) : Bytes :=
  let n := c.toNat
  let low (n : Nat) : Bytes :=
    if n < 32 then ['^', Char.ofNat (n + 64)] else if n = 127 then ['^', '?'] else [Char.ofNat n]
  if n < 128 then low n else ['M', '-'] ++ low (n - 128)

/-- Which changes `cat` makes. -/
structure ShownLines where
  numbers : Bool
  fullOnly : Bool
  squeezes : Bool
  marksEnds : Bool
  marksTabs : Bool
  marksOthers : Bool

/-- The lines of a text as `cat` shows them, with the number of the first one. Whether the text
begins in the middle of a line is told. -/
def ShownLines.show (style : ShownLines) (text : Bytes) : Bytes :=
  let visible (line : Bytes) : Bytes := line.flatMap fun c =>
    if c = '\t' then (if style.marksTabs then ['^', 'I'] else [c])
    else if style.marksOthers then visibleByte c else [c]
  let lines := cutLines '\n' text
  let ends := text.getLast? = some '\n'
  let count := lines.length
  let state := lines.foldl (fun (state : Bytes × Nat × Nat × Bool) line =>
    let (done, index, number, wasEmpty) := state
    let isEmpty := line.isEmpty
    if style.squeezes && isEmpty && wasEmpty then (done, index + 1, number, true)
    else
      let numbered := style.numbers && !(style.fullOnly && isEmpty)
      let lead := if numbered then
          List.replicate (6 - (digits number).length) ' ' ++ digits number ++ ['\t']
        else []
      let complete := index + 1 < count || ends
      let tail := if !complete then [] else if style.marksEnds then ['$', '\n'] else ['\n']
      let shown := lead ++ visible line ++ tail
      (shown.reverseAux done, index + 1, if numbered then number + 1 else number, isEmpty))
    (([] : Bytes), 0, 1, false)
  state.1.reverse

/-- Write inputs one after the other. -/
def cat (arguments : List Bytes) : Act Nat :=
  let table : OptionTable :=
    { letters := "AbeEnstTuv"
      names := [("show-all", 'A'), ("number-nonblank", 'b'), ("show-ends", 'E'), ("number", 'n'),
        ("squeeze-blank", 's'), ("show-tabs", 'T'), ("show-nonprinting", 'v')] }
  withOptions "cat" table arguments (fun options => do
    let any (letters : List Char) : Bool := letters.any options.has
    let style : ShownLines :=
      { numbers := any ['n', 'b'], fullOnly := options.has 'b', squeezes := options.has 's'
        marksEnds := any ['A', 'e', 'E'], marksTabs := any ['A', 't', 'T']
        marksOthers := any ['A', 'e', 't', 'v'] }
    let isPlain := options.given.all fun entry => entry.1 = 'u'
    if isPlain then
      let all ← forInputs options.words (blameInput "cat") fun _ supply => pass supply
      return if all then 0 else 1
    else
      let (content, all) ← allInput "cat" options.words
      put (style.show content)
      return if all then 0 else 1) 1

/-! ## Beginnings and ends -/

/-- A number with a letter that multiplies it. -/
def sizeArgument? (text : Bytes) : Option Nat :=
  let digits := text.takeWhile Char.isDigit
  let factor : Option Nat := match String.ofList (text.drop digits.length) with
    | "" => some 1
    | "b" => some 512
    | "kB" | "KB" => some 1000
    | "k" | "K" | "KiB" => some 1024
    | "MB" => some 1000000
    | "M" | "MiB" => some 1048576
    | "G" | "GiB" => some 1073741824
    | _ => none
  if digits.isEmpty then none else factor.map fun factor => factor * naturalOf digits

/-- A part of an input: so many bytes or lines, told from its beginning or its end. -/
structure Extent where
  countsBytes : Bool := false
  count : Nat := 10
  /-- Whether a sign in front of the number turns its meaning around. -/
  turned : Bool := false

/-- Arguments whose first one is a dash and a number, in the form of an option. -/
def modernCount (arguments : List Bytes) : List Bytes :=
  match arguments with
  | ('-' :: c :: rest) :: more =>
    if c.isDigit then
      let digits := (c :: rest).takeWhile Char.isDigit
      let unit := (c :: rest).drop digits.length
      if unit.head? = some 'c' then (['-', 'c'] ++ digits) :: more
      else (['-', 'n'] ++ digits) :: more
    else arguments
  | arguments => arguments

/-- The extent that options ask for; `sign` turns its meaning around. -/
def extentOf (sign : Char) (options : ProgramOptions) : Except Bytes Extent :=
  match options.last? ['n', 'c'] with
  | none => .ok {}
  | some letter =>
    let text := (options.value? letter).getD []
    let turned := text.head? = some sign
    let plain := if text.head? = some '-' || text.head? = some '+' then text.drop 1 else text
    match sizeArgument? plain with
    | some count => .ok { countsBytes := letter = 'c', count, turned }
    | none =>
      let unit := if letter = 'c' then "bytes" else "lines"
      .error (bytes s!"invalid number of {unit}: " ++ inQuotes text)

/-- How many bytes a program reads at a time when it looks for lines. -/
def readingBlock : Nat := 8192

/-- The beginning of a supply, and how many bytes of the supply are taken for it unless it is read
to its end. -/
def Extent.beginning? (extent : Extent) (supply : Supply) : Option (Bytes × Option Nat) :=
  if extent.turned then
    supply.whole?.map fun text =>
      if extent.countsBytes then (text.take (text.length - extent.count), none)
      else
        let lines := cutLines '\n' text
        let kept := joinLines '\n' (lines.take (lines.length - extent.count))
        (kept.take text.length, none)
  else if extent.countsBytes then
    let part := supply.take extent.count
    some (part, if part.length < extent.count then none else some extent.count)
  else
    (supply.linesWithin? extent.count).map fun text =>
      let part := (joinLines '\n' ((cutLines '\n' text).take extent.count)).take text.length
      if part.count '\n' < extent.count then (part, none)
      else (part, some ((part.length + readingBlock - 1) / readingBlock * readingBlock))

/-- The end of a text. -/
def Extent.ending (extent : Extent) (text : Bytes) : Bytes :=
  let lines := cutLines '\n' text
  let skipped (total : Nat) : Nat :=
    if extent.turned then extent.count - 1 else total - extent.count
  if extent.countsBytes then text.drop (skipped text.length)
  else text.drop (joinLines '\n' (lines.take (skipped lines.length))).length

/-- Show parts of inputs, with a line above each if there are several. -/
def showParts (tool : String) (options : ProgramOptions)
    (part : Bytes → Act (Except SystemError Bytes)) : Act Nat := do
  let names := if options.words.isEmpty then [['-']] else options.words
  let titled := options.has 'v' || (1 < names.length && !options.has 'q')
  let mut all := true
  let mut isFirst := true
  for name in names do
    match ← part name with
    | .ok content =>
      if titled then
        let title := if name = ['-'] then bytes "standard input" else name
        put ((if isFirst then [] else ['\n']) ++ bytes "==> " ++ title ++ bytes " <==\n")
      put content
      isFirst := false
    | .error .isDirectory =>
      if titled then
        put ((if isFirst then [] else ['\n']) ++ bytes "==> " ++ name ++ bytes " <==\n")
      complainAs tool (bytes "error reading " ++ inQuotes name ++ bytes ": Is a directory")
      isFirst := false
      all := false
    | .error error =>
      complainAs tool
        (bytes "cannot open " ++ inQuotes name ++ bytes " for reading: " ++ reasonOf error)
      all := false
  return if all then 0 else 1

/-- The options of the programs that show parts. -/
def partOptions : OptionTable where
  letters := "n:c:qvzfF"
  names := [("lines", 'n'), ("bytes", 'c'), ("quiet", 'q'), ("silent", 'q'), ("verbose", 'v')]

/-- Show the beginnings of inputs. -/
def head (arguments : List Bytes) : Act Nat :=
  withOptions "head" partOptions (modernCount arguments) (fun options => do
    match extentOf '-' options with
    | .error reason =>
      complainAs "head" reason
      return 1
    | .ok extent =>
      showParts "head" options fun name => do
        let supply ← if name = ['-'] then
            takeInput fun supply => (extent.beginning? supply).bind Prod.snd
          else readFile name
        match supply with
        | .error error => return .error error
        | .ok supply =>
          match extent.beginning? supply with
          | some (content, _) => return .ok content
          | none => throw .stuck) 1

/-- Show the ends of inputs. -/
def tail (arguments : List Bytes) : Act Nat :=
  let arguments := match arguments with
    | ('+' :: c :: rest) :: more =>
      if c.isDigit then ['-', 'n'] :: ('+' :: c :: rest) :: more else arguments
    | arguments => modernCount arguments
  withOptions "tail" partOptions arguments (fun options => do
    match extentOf '+' options with
    | .error reason =>
      complainAs "tail" reason
      return 1
    | .ok extent =>
      showParts "tail" options fun name => do
        match ← readNamed name with
        | .error error => return .error error
        | .ok supply => return .ok (extent.ending (← wholeOf supply))) 1

/-! ## Counting -/

/-- The number of words in a text. A byte that cannot be printed neither begins a word nor ends
one. -/
def wordCount (text : Bytes) : Nat :=
  (text.foldl (fun (state : Nat × Bool) c =>
    if isSpace c then (state.1, false)
    else if ' ' < c && c ≤ '~' then (if state.2 then state.1 else state.1 + 1, true)
    else state) (0, false)).1

/-- The width of the longest line of a text, tabs reaching to every eighth column. -/
def longestLine (text : Bytes) : Nat :=
  let state := text.foldl (fun (state : Nat × Nat) c =>
    let (longest, width) := state
    if c = '\n' || c = '\r' || c = '\x0c' then (max longest width, 0)
    else if c = '\t' then (longest, (width / 8 + 1) * 8)
    else if ' ' ≤ c && c ≤ '~' then (longest, width + 1)
    else (longest, width)) (0, 0)
  max state.1 state.2

/-- What is counted in a text, in the order in which it is shown. -/
def countsOf (letters : List Char) (text : Bytes) : List Nat :=
  (if letters.contains 'l' then [text.count '\n'] else []) ++
  (if letters.contains 'w' then [wordCount text] else []) ++
  (if letters.contains 'm' then [text.length] else []) ++
  (if letters.contains 'c' then [text.length] else []) ++
  (if letters.contains 'L' then [longestLine text] else [])

/-- Count lines, words and bytes of inputs. -/
def wc (arguments : List Bytes) : Act Nat :=
  let table : OptionTable :=
    { letters := "clLmw"
      names := [("bytes", 'c'), ("chars", 'm'), ("lines", 'l'), ("words", 'w'),
        ("max-line-length", 'L')] }
  withOptions "wc" table arguments (fun options => do
    let letters := if options.given.isEmpty then ['l', 'w', 'c'] else options.given.map Prod.fst
    let names := options.words
    -- Numbers are as wide as the size of all files, and wide if a size is not known before.
    let files ← files
    let size? (name : Bytes) : Act (Option Nat) := do
      if name = ['-'] then
        match ← channelOf? 0 with
        | some (_, .file place ..) =>
          match (← get).root.get? place with
          | some (.file content _) => return some content.size
          | _ => return none
        | _ => return none
      else match files.node (textOf name) with
        | .ok (.file content _) => return some content.size
        | .ok _ => return none
        | .error _ => return some 0
    let sizes ← (if names.isEmpty then [['-']] else names).mapM size?
    let known := (sizes.filterMap id).foldl (· + ·) 0
    let least := if sizes.all Option.isSome then 1 else 7
    let single := (countsOf letters []).length = 1 && names.length ≤ 1
    let width := if single then 1 else max least (digits known).length
    let row (counts : List Nat) (name : Option Bytes) : Bytes :=
      let shown := counts.map fun count =>
        List.replicate (width - (digits count).length) ' ' ++ digits count
      [' '].intercalate shown ++ (match name with
        | some name => ' ' :: name
        | none => []) ++ ['\n']
    let mut total := countsOf letters []
    let mut all := true
    for name in if names.isEmpty then [['-']] else names do
      let shownName := if names.isEmpty then none else some name
      match ← readNamed name with
      | .ok supply =>
        let counts := countsOf letters (← wholeOf supply)
        put (row counts shownName)
        total := if total.isEmpty then counts else
          (total.zip counts).map fun (a, b) => a + b
      | .error error =>
        blameInput "wc" name error
        if error = .isDirectory then put (row ((countsOf letters []).map fun _ => 0) shownName)
        all := false
    if 1 < names.length then put (row total (some (bytes "total")))
    return if all then 0 else 1) 1

end FlowCheck.Shell
