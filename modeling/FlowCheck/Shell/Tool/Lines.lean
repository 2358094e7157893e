import FlowCheck.Shell.Filter
import FlowCheck.Shell.Format

/-!
# Changing lines

Programs that cut lines into columns, join and number them, turn them around, and count through
numbers.
-/

namespace FlowCheck.Shell

/-! ## Columns -/

/-- A list of ranges of positions, counted from one; a range may have no end. -/
abbrev Positions := List (Nat × Option Nat)

/-- The ranges that a list writes. -/
def positions? (unit : String) (text : Bytes) : Except Bytes Positions :=
  let parts := (String.ofList text |>.map fun c => if c = ' ' then ',' else c).splitOn ","
  parts.mapM fun part =>
    let part := part.toList
    let first := part.takeWhile Char.isDigit
    let zero : Except Bytes (Nat × Option Nat) :=
      .error (bytes (if unit = "field" then "fields are numbered from 1"
        else "byte/character positions are numbered from 1"))
    let invalid : Except Bytes (Nat × Option Nat) :=
      .error (bytes (if unit = "field" then "invalid field value "
        else "invalid byte/character position ") ++ inQuotes part)
    match part.drop first.length with
    | [] =>
      if first.isEmpty then zero
      else if naturalOf first = 0 then zero
      else .ok (naturalOf first, some (naturalOf first))
    | '-' :: last =>
      if !last.all Char.isDigit then invalid
      else if first.isEmpty && last.isEmpty then .error (bytes "invalid range with no endpoint: -")
      else if !first.isEmpty && naturalOf first = 0 then zero
      else
        let start := if first.isEmpty then 1 else naturalOf first
        if last.isEmpty then .ok (start, none)
        else if naturalOf last < start then .error (bytes "invalid decreasing range")
        else .ok (start, some (naturalOf last))
    | _ => invalid

/-- Whether a position is in a list. -/
def Positions.has (positions : Positions) (position : Nat) : Bool :=
  positions.any fun (first, last) => first ≤ position && last.all (position ≤ ·)

/-- The pieces of a text between separators. -/
def splitAt (separator : Char) : Bytes → List Bytes
  | [] => [[]]
  | c :: rest =>
    match splitAt separator rest with
    | piece :: more => if c = separator then [] :: piece :: more else (c :: piece) :: more
    | [] => []

/-- The members of a list at some positions. -/
def selected {α : Type} (isIn : Nat → Bool) (items : List α) : List α :=
  (items.zipIdx 1).filterMap fun (item, position) => if isIn position then some item else none

/-- Write some columns of lines. -/
def cut (arguments : List Bytes) : Act Nat :=
  let table : OptionTable :=
    { letters := "b:c:f:d:nszCo:"
      names := [("bytes", 'b'), ("characters", 'c'), ("fields", 'f'), ("delimiter", 'd'),
        ("only-delimited", 's'), ("zero-terminated", 'z'), ("complement", 'C'),
        ("output-delimiter", 'o')] }
  withOptions "cut" table arguments (fun options => do
    let lists := options.given.filter fun entry => ['b', 'c', 'f'].contains entry.1
    let delimiter := options.value? 'd'
    match lists with
    | [] => misused "cut" 1 (bytes "you must specify a list of bytes, characters, or fields")
    | _ :: _ :: _ => misused "cut" 1 (bytes "only one list may be specified")
    | [(letter, list)] =>
      let byFields := letter = 'f'
      if delimiter.isSome && !byFields then
        misused "cut" 1
          (bytes "an input delimiter may be specified only when operating on fields")
      else if delimiter.any (1 < List.length ·) then
        misused "cut" 1 (bytes "the delimiter must be a single character")
      else if options.has 's' && !byFields then
        misused "cut" 1 (bytes ("suppressing non-delimited lines makes sense\n\tonly when " ++
          "operating on fields"))
      else
        match positions? (if byFields then "field" else "byte") list with
        | .error reason => misused "cut" 1 reason
        | .ok positions =>
          let separator := ((delimiter.getD ['\t']).head?).getD '\x00'
          let joint := match options.value? 'o' with
            | some joint => joint
            | none => if byFields then [separator] else []
          let isIn (position : Nat) : Bool := positions.has position != options.has 'C'
          let ending := if options.has 'z' then '\x00' else '\n'
          let (content, all) ← allInput "cut" options.words
          let lines := (cutLines ending content).filterMap fun line =>
            if byFields then
              if !line.contains separator then if options.has 's' then none else some line
              else some (joint.intercalate (selected isIn (splitAt separator line)))
            else if joint.isEmpty then some (selected isIn line)
            else
              -- Runs of chosen bytes are kept apart by the joint.
              let marked := (line.zipIdx 1).map fun (c, position) => (c, isIn position)
              let runs := marked.splitBy fun a b => a.2 == b.2
              let chosen := (runs.filter fun run => run.head?.any Prod.snd).map fun run =>
                run.map Prod.fst
              some (joint.intercalate chosen)
          put (joinLines ending lines)
          return if all then 0 else 1) 1

/-- Texts side by side, the joints in between taken in turn. -/
def joinWith (joints : List Bytes) (pieces : List Bytes) : Bytes :=
  (pieces.zipIdx).flatMap fun (piece, index) =>
    if index = 0 then piece
    else (joints[(index - 1) % max 1 joints.length]?).getD [] ++ piece

/-- Join lines of several inputs, or those of one. -/
def paste (arguments : List Bytes) : Act Nat :=
  let table : OptionTable :=
    { letters := "d:sz", names := [("delimiters", 'd'), ("serial", 's'), ("zero-terminated", 'z')] }
  withOptions "paste" table arguments (fun options => do
    let rec joints : Bytes → List Bytes
      | '\\' :: c :: rest =>
        (match c with
          | 'n' => ['\n']
          | 't' => ['\t']
          | '0' => []
          | c => [c]) :: joints rest
      | c :: rest => [c] :: joints rest
      | [] => []
    let joints := joints ((options.value? 'd').getD ['\t'])
    let names := if options.words.isEmpty then [['-']] else options.words
    -- The input is dealt out line by line to all names that mean it.
    let fromInput ← if names.contains ['-'] then do
        match ← takeInput fun _ => none with
        | .ok supply => pure (cutLines '\n' (← wholeOf supply))
        | .error _ => pure []
      else pure []
    let shares := names.count ['-']
    let mut all := true
    let mut columns : List (List Bytes) := []
    let mut share := 0
    for name in names do
      if name = ['-'] then
        let mine := selected (fun position => (position - 1) % shares = share) fromInput
        columns := columns ++
          [if options.has 's' then (if share = 0 then fromInput else []) else mine]
        share := share + 1
      else
        match ← readFile name with
        | .ok supply => columns := columns ++ [cutLines '\n' (← wholeOf supply)]
        | .error error =>
          blameInput "paste" name error
          all := false
    if !all then return 1
    if options.has 's' then put (columns.flatMap fun lines => joinWith joints lines ++ ['\n'])
    else
      let rows := (columns.map List.length).max?.getD 0
      put ((List.range rows).flatMap fun row =>
        joinWith joints (columns.map fun lines => (lines[row]?).getD []) ++ ['\n'])
    return 0) 1

/-! ## Whole lines -/

/-- Turn the order of lines around. -/
def tac (arguments : List Bytes) : Act Nat :=
  withOptions "tac" { letters := "brs:" } arguments (fun options => do
    let mut all := true
    for name in if options.words.isEmpty then [['-']] else options.words do
      match ← readNamed name with
      | .ok supply =>
        let content ← wholeOf supply
        let lines := cutLines '\n' content
        let ended := content.getLast? = some '\n'
        let pieces := lines.zipIdx.map fun (line, index) =>
          if index + 1 = lines.length && !ended then line else line ++ ['\n']
        put pieces.reverse.flatten
      | .error error =>
        complainAs "tac"
          (bytes "failed to open " ++ inQuotes name ++ bytes " for reading: " ++ reasonOf error)
        all := false
    return if all then 0 else 1) 1

/-- Turn every line around. -/
def rev (arguments : List Bytes) : Act Nat := do
  let (content, all) ← allInput "rev" arguments
  let lines := (cutLines '\n' content).map List.reverse
  let text := joinLines '\n' lines
  put (text.take content.length)
  return if all then 0 else 1

/-- Break lines that are too long. -/
def fold (arguments : List Bytes) : Act Nat :=
  let arguments := match arguments with
    | ('-' :: c :: rest) :: more =>
      if c.isDigit then (['-', 'w', c] ++ rest) :: more else arguments
    | arguments => arguments
  let table : OptionTable :=
    { letters := "bsw:", names := [("bytes", 'b'), ("spaces", 's'), ("width", 'w')] }
  withOptions "fold" table arguments (fun options => do
    let width := match options.value? 'w' with
      | some text => if text.all Char.isDigit then naturalOf text else 0
      | none => 80
    if width = 0 then
      complainAs "fold"
        (bytes "invalid number of columns: " ++ inQuotes ((options.value? 'w').getD []))
      return 1
    let rec pieces : Nat → Bytes → Bytes
      | 0, line => line
      | fuel + 1, line =>
        if line.length ≤ width then line
        else
          let part := line.take width
          let kept :=
            if options.has 's' then (part.reverse.dropWhile fun c => c ≠ ' ').length else 0
          let size := if kept = 0 then width else kept
          line.take size ++ '\n' :: pieces fuel (line.drop size)
    let (content, all) ← allInput "fold" options.words
    let lines := (cutLines '\n' content).map fun line => pieces line.length line
    let text := joinLines '\n' lines
    put (if content.getLast? = some '\n' || content.isEmpty then text else text.dropLast)
    return if all then 0 else 1) 1

/-- Number lines. -/
def numberLines (arguments : List Bytes) : Act Nat :=
  let table : OptionTable :=
    { letters := "b:d:f:h:i:l:n:ps:v:w:"
      names := [("body-numbering", 'b'), ("line-increment", 'i'), ("number-format", 'n'),
        ("number-separator", 's'), ("starting-line-number", 'v'), ("number-width", 'w')] }
  withOptions "nl" table arguments (fun options => do
    let number (letter : Char) (default : Nat) : Nat :=
      ((options.value? letter).map naturalOf).getD default
    let width := number 'w' 6
    let separator := (options.value? 's').getD ['\t']
    let style := (options.value? 'b').getD ['t']
    let format := (options.value? 'n').getD ['r', 'n']
    let shown (n : Nat) : Bytes :=
      let text := digits n
      let gap := width - text.length
      if format = ['l', 'n'] then text ++ List.replicate gap ' '
      else List.replicate gap (if format = ['r', 'z'] then '0' else ' ') ++ text
    let (content, all) ← allInput "nl" options.words
    let step (state : List Bytes × Nat) (line : Bytes) : List Bytes × Nat :=
      let numbered := style = ['a'] || (style = ['t'] && !line.isEmpty)
      if numbered then ((shown state.2 ++ separator ++ line) :: state.1, state.2 + number 'i' 1)
      else ((List.replicate (width + separator.length) ' ' ++ line) :: state.1, state.2)
    let lines := ((cutLines '\n' content).foldl step ([], number 'v' 1)).1.reverse
    put (joinLines '\n' lines)
    return if all then 0 else 1) 1

/-- Write blanks for tabs. -/
def expandTabs (arguments : List Bytes) : Act Nat :=
  withOptions "expand" { letters := "it:", names := [("tabs", 't'), ("initial", 'i')] } arguments
    (fun options => do
      let size := max 1 (((options.value? 't').map naturalOf).getD 8)
      let (content, all) ← allInput "expand" options.words
      let state := content.foldl (fun (state : Bytes × Nat) c =>
        if c = '\t' then
          let gap := size - state.2 % size
          (List.replicate gap ' ' ++ state.1, state.2 + gap)
        else if c = '\n' then (c :: state.1, 0)
        else (c :: state.1, state.2 + 1)) (([] : Bytes), 0)
      put state.1.reverse
      return if all then 0 else 1) 1

/-! ## Counting through numbers -/

/-- A decimal number: all its digits as one number, and how many of them stand behind the point. -/
structure PlainDecimal where
  value : Int
  places : Nat

/-- The decimal number that a text is. -/
def plainDecimal? (text : Bytes) : Option PlainDecimal :=
  let (negative, rest) := match text with
    | '-' :: rest => (true, rest)
    | '+' :: rest => (false, rest)
    | rest => (false, rest)
  let whole := rest.takeWhile Char.isDigit
  let (fraction, after) := match rest.drop whole.length with
    | '.' :: after => (after.takeWhile Char.isDigit, after.dropWhile Char.isDigit)
    | after => ([], after)
  if (whole.isEmpty && fraction.isEmpty) || !after.isEmpty then none
  else
    let value : Int := naturalOf (whole ++ fraction)
    some ⟨if negative then -value else value, fraction.length⟩

/-- A decimal number with more places. -/
def PlainDecimal.scaled (decimal : PlainDecimal) (places : Nat) : Int :=
  decimal.value * (Nat.pow 10 (places - decimal.places) : Nat)

/-- A decimal number as a text. -/
def decimalText (value : Int) (places : Nat) : Bytes :=
  (if value < 0 then ['-'] else []) ++ withPoint places false value.natAbs

/-- Arguments in which a negative number cannot be taken for options: a mark that ends the options
stands in front of it. -/
def guardNumbers : List Bytes → List Bytes
  | [] => []
  | word :: rest =>
    match word with
    | ['-', 's'] | ['-', 'f'] => word :: rest.take 1 ++ guardNumbers (rest.drop 1)
    | ['-', '-'] | ['-'] => word :: rest
    | '-' :: c :: _ =>
      if c.isDigit || c = '.' then ['-', '-'] :: word :: rest else word :: guardNumbers rest
    | _ => word :: rest
termination_by words => words.length
decreasing_by all_goals simp only [List.length_drop, List.length_cons]; omega

/-- Count from one number to another. -/
def seq (arguments : List Bytes) : Act Nat := do
  let arguments := guardNumbers arguments
  let table : OptionTable :=
    { letters := "f:s:w", strict := true
      names := [("format", 'f'), ("separator", 's'), ("equal-width", 'w')] }
  withOptions "seq" table arguments (fun options => do
    match options.words with
    | [] => misused "seq" 1 (bytes "missing operand")
    | _ :: _ :: _ :: extra :: _ => misused "seq" 1 (bytes "extra operand " ++ inQuotes extra)
    | words =>
      match words.find? fun word => (plainDecimal? word).isNone with
      | some word =>
        misused "seq" 1 (bytes "invalid floating point argument: " ++ inQuotes word)
      | none =>
        let one : PlainDecimal := ⟨1, 0⟩
        let (first, increment, last) := match words.filterMap plainDecimal? with
          | [last] => (one, one, last)
          | [first, last] => (first, one, last)
          | first :: increment :: last :: _ => (first, increment, last)
          | [] => (one, one, one)
        if increment.value = 0 then
          misused "seq" 1
            (bytes "invalid Zero increment value: " ++ inQuotes ((words[1]?).getD []))
        else
          let places := max first.places (max increment.places last.places)
          let shownPlaces := max first.places increment.places
          let start := first.scaled places
          let step := increment.scaled places
          let stop := last.scaled places
          let count := if 0 < step then (stop - start).fdiv step + 1
            else (start - stop).fdiv (-step) + 1
          let extra := Nat.pow 10 (places - shownPlaces)
          let values := (List.range count.toNat).map fun (index : Nat) => start + step * index
          let texts := values.map fun value => decimalText (value / (extra : Nat)) shownPlaces
          let width := (texts.map List.length).max?.getD 0
          let texts := match options.value? 'f' with
            | some format => texts.map fun text => (formatted format [text]).done.reverse
            | none =>
              if !options.has 'w' then texts
              else texts.map fun text =>
                let gap := List.replicate (width - text.length) '0'
                match text with
                | '-' :: rest => '-' :: gap ++ rest
                | text => gap ++ text
          unless texts.isEmpty do
            put (((options.value? 's').getD ['\n']).intercalate texts ++ ['\n'])
          return 0) 1

end FlowCheck.Shell
