import FlowCheck.Shell.Filter

/-!
# Putting lines in order

Programs that sort lines, drop the ones that come again, and compare the lines of two inputs that
are in order.
-/

namespace FlowCheck.Shell

/-! ## Sorting -/

/-- How keys are compared. -/
structure SortStyle where
  numeric : Bool := false
  reversed : Bool := false
  folds : Bool := false
  skipsBlanks : Bool := false
  dictionary : Bool := false
  printable : Bool := false
  human : Bool := false
  version : Bool := false

/-- A style by the letters of options. -/
def sortStyle (letters : List Char) : SortStyle where
  numeric := letters.contains 'n' || letters.contains 'g'
  reversed := letters.contains 'r'
  folds := letters.contains 'f'
  skipsBlanks := letters.contains 'b'
  dictionary := letters.contains 'd'
  printable := letters.contains 'i'
  human := letters.contains 'h'
  version := letters.contains 'V'

/-- Where a key begins or ends: a field and a byte of it, both counted from one. -/
structure KeyPlace where
  field : Nat
  byte : Nat
  letters : List Char := []

/-- A key of lines. -/
structure SortKey where
  start : KeyPlace
  stop : Option KeyPlace
  style : SortStyle

/-- A number and a place of a key at the beginning of a text, and the text after it. -/
def keyPlace? (text : Bytes) : Option (KeyPlace × Bytes) :=
  let field := text.takeWhile Char.isDigit
  let rest := text.drop field.length
  let (byte, rest) := match rest with
    | '.' :: rest => (rest.takeWhile Char.isDigit, rest.dropWhile Char.isDigit)
    | rest => ([], rest)
  let letters := rest.takeWhile Char.isAlpha
  let number (digits : Bytes) (default : Nat) : Nat :=
    if digits.isEmpty then default
    else digits.foldl (fun value c => 10 * value + (c.toNat - '0'.toNat)) 0
  if field.isEmpty || number field 1 = 0 then none
  else some (⟨number field 1, number byte 0, letters⟩, rest.drop letters.length)

/-- The key that a text describes; without letters of its own it has those of the program. -/
def sortKey? (letters : List Char) (text : Bytes) : Option SortKey := do
  let (start, rest) ← keyPlace? text
  let stop ← match rest with
    | [] => some none
    | ',' :: rest => do
      let (stop, rest) ← keyPlace? rest
      if rest.isEmpty then some (some stop) else none
    | _ => none
  let own := start.letters ++ ((stop.map KeyPlace.letters).getD [])
  return ⟨start, stop, sortStyle (if own.isEmpty then letters else own)⟩

/-- The places at which the fields of a line begin, and behind each the place at which it ends. -/
def fieldBounds (separator : Option Char) (line : Bytes) : List (Nat × Nat) :=
  match separator with
  | some separator =>
    let state := line.zipIdx.foldl (fun (state : List (Nat × Nat) × Nat) (c, index) =>
      if c = separator then ((state.2, index) :: state.1, index + 1) else state) ([], 0)
    ((state.2, line.length) :: state.1).reverse
  | none =>
    let isBlank (c : Char) : Bool := c = ' ' || c = '\t'
    let state := line.zipIdx.foldl (fun (state : List (Nat × Nat) × Nat × Bool) (c, index) =>
      let (done, start, inText) := state
      if isBlank c && inText then ((start, index) :: done, index, false)
      else (done, start, inText || !isBlank c)) (([] : List (Nat × Nat)), 0, false)
    ((state.2.1, line.length) :: state.1).reverse

/-- The part of a line that a key is. -/
def SortKey.part (key : SortKey) (separator : Option Char) (line : Bytes) : Bytes :=
  let bounds := fieldBounds separator line
  let isBlank (c : Char) : Bool := c = ' ' || c = '\t'
  let blanksAt (place : Nat) : Nat := ((line.drop place).takeWhile isBlank).length
  let start := match bounds[key.start.field - 1]? with
    | some (first, last) =>
      let first := if key.style.skipsBlanks || key.start.letters.contains 'b' then
          min last (first + blanksAt first) else first
      min last (first + (key.start.byte - 1))
    | none => line.length
  let stop := match key.stop with
    | none => line.length
    | some stop =>
      match bounds[stop.field - 1]? with
      | some (first, last) =>
        if stop.byte = 0 then last
        else
          let first := if stop.letters.contains 'b' then first + blanksAt first else first
          min line.length (first + stop.byte)
      | none => line.length
  (line.drop start).take (stop - start)

/-- A decimal number at the beginning of a text: its sign, its whole part, and its other digits. -/
def sortNumber (text : Bytes) : Int × Bytes :=
  let text := text.dropWhile fun c => c = ' ' || c = '\t'
  let (negative, rest) := match text with
    | '-' :: rest => (true, rest)
    | rest => (false, rest)
  let whole := rest.takeWhile Char.isDigit
  let fraction := match rest.drop whole.length with
    | '.' :: rest => rest.takeWhile Char.isDigit
    | _ => []
  let places := (fraction.take 30) ++ List.replicate (30 - fraction.length) '0'
  let value : Int := (whole ++ places).foldl
    (fun value c => 10 * value + (c.toNat - '0'.toNat)) 0
  let rest := rest.drop whole.length
  let rest := if rest.head? = some '.' then (rest.drop 1).dropWhile Char.isDigit else rest
  (if negative then -value else value, rest)

/-- How large the unit behind a number is. -/
def unitRank (rest : Bytes) : Nat :=
  match rest.head? with
  | some c => (("KMGTPEZY".toList.idxOf? c.toUpper).map (· + 1)).getD 0
  | none => 0

/-- Bytes compared. -/
def compareBytes (a b : Bytes) : Ordering :=
  if a == b then .eq else if bytesLe a b then .lt else .gt

/-- Texts compared as names of versions: runs of digits count as numbers. -/
def compareVersions : Nat → Bytes → Bytes → Ordering
  | 0, a, b => compareBytes a b
  | fuel + 1, a, b =>
    let plainA := a.takeWhile fun c => !c.isDigit
    let plainB := b.takeWhile fun c => !c.isDigit
    match compareBytes plainA plainB with
    | .eq =>
      let a := a.drop plainA.length
      let b := b.drop plainB.length
      if a.isEmpty || b.isEmpty then compareBytes a b
      else
        let digitsA := a.takeWhile Char.isDigit
        let digitsB := b.takeWhile Char.isDigit
        match compare (naturalOf digitsA) (naturalOf digitsB) with
        | .eq => compareVersions fuel (a.drop digitsA.length) (b.drop digitsB.length)
        | order => order
    | order => order

/-- Keys compared in a style, its direction aside. -/
def SortStyle.compareKeys (style : SortStyle) (a b : Bytes) : Ordering :=
  if style.numeric then compare (sortNumber a).1 (sortNumber b).1
  else if style.human then
    let (x, unitA) := sortNumber a
    let (y, unitB) := sortNumber b
    let sign (n : Int) : Int := if n < 0 then -1 else if n = 0 then 0 else 1
    let rank (n : Int) (unit : Bytes) : Int := sign n * (unitRank unit + 1)
    (compare (rank x unitA) (rank y unitB)).then (compare x y)
  else if style.version then compareVersions (a.length + b.length) a b
  else
    let clean (text : Bytes) : Bytes :=
      let text := if style.dictionary then
          text.filter fun c => c.isAlphanum || c = ' ' || c = '\t' else text
      let text := if style.printable then text.filter fun c => ' ' ≤ c && c ≤ '~' else text
      if style.folds then text.map Char.toUpper else text
    compareBytes (clean a) (clean b)

/-- How the whole of the lines is to be sorted. -/
structure SortOrder where
  keys : List SortKey
  style : SortStyle
  separator : Option Char
  /-- Whether lines whose keys are the same stay as they are. -/
  stable : Bool

/-- Lines compared by their keys. -/
def SortOrder.compareByKeys (order : SortOrder) (a b : Bytes) : Ordering :=
  let turn (reversed : Bool) (result : Ordering) : Ordering :=
    if reversed then result.swap else result
  if order.keys.isEmpty then
    let trim (line : Bytes) : Bytes := if order.style.skipsBlanks then
      line.dropWhile fun c => c = ' ' || c = '\t' else line
    turn order.style.reversed (order.style.compareKeys (trim a) (trim b))
  else
    order.keys.foldl (fun result key =>
      result.then (turn key.style.reversed (key.style.compareKeys
        (key.part order.separator a) (key.part order.separator b)))) .eq

/-- Lines compared. -/
def SortOrder.compareLines (order : SortOrder) (a b : Bytes) : Ordering :=
  (order.compareByKeys a b).then
    (if order.stable then .eq
      else if order.style.reversed then compareBytes b a else compareBytes a b)

/-- Lines without those that are like the one before. -/
def withoutRepeats (same : Bytes → Bytes → Bool) (lines : List Bytes) : List Bytes :=
  (lines.foldl (fun done line =>
    match done with
    | last :: _ => if same last line then done else line :: done
    | [] => [line]) []).reverse

/-- Sort lines. -/
def sort (arguments : List Bytes) : Act Nat :=
  let table : OptionTable :=
    { letters := "bdfgihMnrRVcCk:mo:sS:t:uzT:"
      names := [("ignore-leading-blanks", 'b'), ("dictionary-order", 'd'), ("ignore-case", 'f'),
        ("general-numeric-sort", 'g'), ("ignore-nonprinting", 'i'), ("human-numeric-sort", 'h'),
        ("numeric-sort", 'n'), ("reverse", 'r'), ("version-sort", 'V'), ("check", 'c'),
        ("key", 'k'), ("merge", 'm'), ("output", 'o'), ("stable", 's'), ("field-separator", 't'),
        ("unique", 'u'), ("zero-terminated", 'z')] }
  withOptions "sort" table arguments (fun options => do
    let letters := options.given.map Prod.fst
    let separatorText := options.value? 't'
    let separator := match separatorText with
      | some ['\\', '0'] => some '\x00'
      | some text => text.head?
      | none => none
    let keyTexts := (options.given.filter fun entry => entry.1 = 'k').map Prod.snd
    match keyTexts.mapM (sortKey? letters) with
    | none =>
      complainAs "sort" (bytes "invalid number at field start: invalid count at start of " ++
        inQuotes ((keyTexts.find? fun text => (sortKey? letters text).isNone).getD []))
      return 2
    | some keys =>
      if separatorText.any fun text => 1 < text.length && text ≠ ['\\', '0'] then
        complainAs "sort" (bytes "multi-character tab " ++ inQuotes (separatorText.getD []))
        return 2
      let unique := options.has 'u'
      let order : SortOrder :=
        { keys, style := sortStyle letters, separator, stable := options.has 's' || unique }
      let ending := if options.has 'z' then '\x00' else '\n'
      let mut content : Bytes := []
      for name in if options.words.isEmpty then [['-']] else options.words do
        match ← readNamed name with
        | .ok supply =>
          let text ← wholeOf supply
          let ended := text.isEmpty || text.getLast? = some ending
          content := content ++ text ++ (if ended then [] else [ending])
        | .error error =>
          let kind := if error = .isDirectory then "read failed: " else "cannot read: "
          complainAs "sort" (bytes kind ++ name ++ bytes ": " ++ reasonOf error)
          return 2
      let lines := cutLines ending content
      let follows (a b : Bytes) : Bool := order.compareLines a b != .gt
      if options.has 'c' || options.has 'C' then
        let pairs := (lines.zip (lines.drop 1)).zipIdx 2
        let wrong := pairs.find? fun ((a, b), _) =>
          if unique then order.compareByKeys a b != .lt else !follows a b
        match wrong with
        | none => return 0
        | some ((_, line), number) =>
          if options.has 'c' then
            let name := options.words.headD ['-']
            complainAs "sort" (name ++ ':' :: digits number ++ bytes ": disorder: " ++ line)
          return 1
      let sorted := lines.mergeSort follows
      let same (a b : Bytes) : Bool := order.compareByKeys a b == .eq
      let output := joinLines ending (if unique then withoutRepeats same sorted else sorted)
      match options.value? 'o' with
      | none => put output
      | some path =>
        match ← openForWriting path (.writing true) false with
        | .error reason =>
          complainAs "sort" (bytes "open failed: " ++ path ++ bytes ": " ++ reason)
          return 2
        | .ok channel =>
          let number ← openChannel channel
          keepingStreams do
            lead 1 (some number)
            put output
      return 0) 2

/-! ## Lines that come again -/

/-- The part of a line that is compared. -/
def comparedPart (fields bytesSkipped : Nat) (width : Option Nat) (folds : Bool) (line : Bytes) :
    Bytes :=
  let isBlank (c : Char) : Bool := c = ' ' || c = '\t'
  let skipField (text : Bytes) : Bytes := (text.dropWhile isBlank).dropWhile fun c => !isBlank c
  let rest := ((List.range fields).foldl (fun text _ => skipField text) line).drop bytesSkipped
  let rest := match width with
    | some width => rest.take width
    | none => rest
  if folds then rest.map Char.toLower else rest

/-- Drop lines that are like the one before, or those that are not, or count them. -/
def uniq (arguments : List Bytes) : Act Nat :=
  let table : OptionTable :=
    { letters := "cdDf:is:uw:z"
      names := [("count", 'c'), ("repeated", 'd'), ("skip-fields", 'f'), ("ignore-case", 'i'),
        ("skip-chars", 's'), ("unique", 'u'), ("check-chars", 'w'), ("zero-terminated", 'z')] }
  withOptions "uniq" table arguments (fun options => do
    let number (letter : Char) : Option Nat := (options.value? letter).map naturalOf
    let part := comparedPart ((number 'f').getD 0) ((number 's').getD 0) (number 'w')
      (options.has 'i')
    let ending := if options.has 'z' then '\x00' else '\n'
    let (content, all) ← allInput "uniq" (options.words.take 1)
    if !all then return 1
    let groups := (cutLines ending content).splitBy fun a b => part a == part b
    let shown := groups.flatMap fun group =>
      let repeats := 1 < group.length
      if options.has 'D' then (if repeats then group else [])
      else if (options.has 'd' && !repeats) || (options.has 'u' && repeats) then []
      else
        let line := group.headD []
        let count := digits group.length
        [if options.has 'c' then List.replicate (7 - count.length) ' ' ++ count ++ ' ' :: line
          else line]
    let output := joinLines ending shown
    match options.words.drop 1 with
    | [] => put output
    | path :: _ =>
      match ← openForWriting path (.writing true) false with
      | .error reason =>
        complainAs "uniq" (path ++ bytes ": " ++ reason)
        return 1
      | .ok channel =>
        let number ← openChannel channel
        keepingStreams do
          lead 1 (some number)
          put output
    return 0) 1

/-- How lines of two inputs are compared, and what was found. -/
structure Merging where
  /-- When it is checked whether an input is in order: always, or once a line has no partner. -/
  checksAlways : Bool
  checksUnpaired : Bool
  /-- Whether a line without a partner was seen. -/
  unpaired : Bool := false
  /-- The inputs that are known not to be in order. -/
  disordered : List Nat := []

/-- A line of two merged inputs with the column of the inputs that it is in, or the number of an
input that is found not to be in order. -/
inductive MergedLine where
  | line (column : Nat) (content : Bytes)
  | disorder (input : Nat)

/-- Check the order of two lines of an input. -/
def Merging.check (merging : Merging) (input : Nat) (first second : Bytes) :
    Merging × List MergedLine :=
  let isChecked := merging.checksAlways || (merging.checksUnpaired && merging.unpaired)
  if isChecked && !merging.disordered.contains input && compareBytes first second = .gt then
    ({ merging with disordered := input :: merging.disordered }, [.disorder input])
  else (merging, [])

/-- Go on to the next line of an input, given the lines before, last first. At the end of the input
the last two lines are checked again. -/
def Merging.advance (merging : Merging) (input : Nat) (before : List Bytes) (line : Bytes)
    (rest : List Bytes) : Merging × List MergedLine :=
  match rest, before with
  | next :: _, _ => merging.check input line next
  | [], last :: _ => merging.check input last line
  | [], [] => (merging, [])

/-- The lines of two inputs in order, and how far the inputs are in order. The lines that were taken
already are given last first. -/
def mergeColumns : Nat → Merging → List Bytes → List Bytes → List Bytes → List Bytes →
    List MergedLine × Merging
  | 0, merging, _, _, _, _ => ([], merging)
  | fuel + 1, merging, beforeLeft, beforeRight, left, right =>
    let order := match left, right with
      | [], _ => Ordering.gt
      | _, [] => Ordering.lt
      | a :: _, b :: _ => compareBytes a b
    let merging := { merging with unpaired := merging.unpaired || order != .eq }
    match order, left, right with
    | .lt, a :: left, right =>
      let (merging, found) := merging.advance 1 beforeLeft a left
      let (rest, merging) := mergeColumns fuel merging (a :: beforeLeft) beforeRight left right
      (.line 1 a :: found ++ rest, merging)
    | .gt, left, b :: right =>
      let (merging, found) := merging.advance 2 beforeRight b right
      let (rest, merging) := mergeColumns fuel merging beforeLeft (b :: beforeRight) left right
      (.line 2 b :: found ++ rest, merging)
    | .eq, a :: left, b :: right =>
      let (merging, foundLeft) := merging.advance 1 beforeLeft a left
      let (merging, foundRight) := merging.advance 2 beforeRight b right
      let (rest, merging) :=
        mergeColumns fuel merging (a :: beforeLeft) (b :: beforeRight) left right
      (.line 3 b :: foundLeft ++ foundRight ++ rest, merging)
    | _, _, _ => ([], merging)

/-- Compare the lines of two inputs that are in order. -/
def comm (arguments : List Bytes) : Act Nat :=
  let table : OptionTable :=
    { letters := "123zcnd:t"
      names := [("check-order", 'c'), ("nocheck-order", 'n'), ("output-delimiter", 'd'),
        ("total", 't'), ("zero-terminated", 'z')] }
  withOptions "comm" table arguments (fun options => do
    match options.words with
    | [first, second] =>
      match ← readNamed first, ← readNamed second with
      | .ok a, .ok b =>
        let ending := if options.has 'z' then '\x00' else '\n'
        let left := cutLines ending (← wholeOf a)
        let right := cutLines ending (← wholeOf b)
        let hidden (column : Nat) : Bool := options.has (Char.ofNat (48 + column))
        let delimiter := (options.value? 'd').getD ['\t']
        let merging : Merging :=
          { checksAlways := options.has 'c', checksUnpaired := !options.has 'n' }
        let (merged, merging) :=
          mergeColumns (left.length + right.length + 1) merging [] [] left right
        for entry in merged do
          match entry with
          | .line column content =>
            unless hidden column do
              let lead := ((List.range column).drop 1).filter fun before => !hidden before
              put (lead.flatMap (fun _ => delimiter) ++ content ++ [ending])
          | .disorder input =>
            complainAs "comm" (bytes s!"file {input} is not in sorted order")
            if options.has 'c' then return 1
        if options.has 't' then
          let count (wanted : Nat) : Nat := merged.countP fun
            | .line column _ => column = wanted
            | .disorder _ => false
          put (delimiter.intercalate
            [digits (count 1), digits (count 2), digits (count 3), bytes "total"] ++ [ending])
        if merging.disordered.isEmpty then return 0
        complainAs "comm" (bytes "input is not in sorted order")
        return 1
      | .error error, _ =>
        blameInput "comm" first error
        return 1
      | _, .error error =>
        blameInput "comm" second error
        return 1
    | [] => misused "comm" 1 (bytes "missing operand")
    | [only] => misused "comm" 1 (bytes "missing operand after " ++ inQuotes only)
    | _ :: _ :: extra :: _ => misused "comm" 1 (bytes "extra operand " ++ inQuotes extra)) 1

end FlowCheck.Shell
