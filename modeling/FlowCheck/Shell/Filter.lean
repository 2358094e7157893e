import FlowCheck.Shell.Redirect

/-!
# Filters

What programs that work on texts have in common: how they read their options, their inputs and the
lines of them, and how they complain.
-/

namespace FlowCheck.Shell

/-! ## Options -/

/-- What the arguments of a program come to. -/
structure ProgramOptions where
  /-- The options by their letters, with their values, in order. -/
  given : List (Char × Bytes) := []
  words : List Bytes := []

namespace ProgramOptions

/-- Whether an option is given. -/
def has (options : ProgramOptions) (letter : Char) : Bool :=
  options.given.any fun entry => entry.1 = letter

/-- The last value of an option. -/
def value? (options : ProgramOptions) (letter : Char) : Option Bytes :=
  options.given.reverse.lookup letter

/-- The last one of some options that is given. -/
def last? (options : ProgramOptions) (letters : List Char) : Option Char :=
  (options.given.reverse.find? fun entry => letters.contains entry.1).map Prod.fst

end ProgramOptions

/-- The options that a program knows. -/
structure OptionTable where
  /-- The letters; a colon behind one says that it takes a value. -/
  letters : String
  /-- Long names of letters. -/
  names : List (String × Char) := []
  /-- Whether the first word ends the options. -/
  strict : Bool := false

namespace OptionTable

/-- Whether a letter takes a value, if it is known. -/
def takesValue? (table : OptionTable) (letter : Char) : Option Bool :=
  match table.letters.toList.dropWhile (· ≠ letter) with
  | _ :: ':' :: _ => if letter = ':' then none else some true
  | _ :: _ => if letter = ':' then none else some false
  | [] => none

/-- Read the letters of an argument. Whether the next argument is a value comes back as well. -/
def readLetters (table : OptionTable) (next : Option Bytes) :
    Bytes → Except String (List (Char × Bytes) × Bool)
  | [] => .ok ([], false)
  | letter :: rest =>
    match table.takesValue? letter with
    | none => .error s!"invalid option -- '{letter}'"
    | some false => do
      let (more, taken) ← readLetters table next rest
      return ((letter, []) :: more, taken)
    | some true =>
      if !rest.isEmpty then .ok ([(letter, rest)], false)
      else
        match next with
        | some value => .ok ([(letter, value)], true)
        | none => .error s!"option requires an argument -- '{letter}'"

/-- The letter of a long name, which may be cut short. -/
def letterOf? (table : OptionTable) (name : Bytes) : Option Char :=
  let text := String.ofList name
  match table.names.lookup text with
  | some letter => some letter
  | none =>
    match table.names.filter fun entry => name.isPrefixOf entry.1.toList with
    | [entry] => some entry.2
    | _ => none

/-- Read the arguments of a program. -/
def read (table : OptionTable) : Nat → ProgramOptions → List Bytes → Except String ProgramOptions
  | 0, done, _ | _, done, [] => .ok done
  | fuel + 1, done, word :: rest =>
    match word with
    | ['-', '-'] => .ok { done with words := done.words ++ rest }
    | '-' :: '-' :: text =>
      let name := text.takeWhile (· ≠ '=')
      match table.letterOf? name with
      | none => .error s!"unrecognized option '--{textOf text}'"
      | some letter =>
        let given := text.drop (name.length + 1)
        let hasValue := name.length < text.length
        if table.takesValue? letter = some true && !hasValue then
          match rest with
          | value :: rest =>
            read table fuel { done with given := done.given ++ [(letter, value)] } rest
          | [] => .error s!"option '--{textOf name}' requires an argument"
        else read table fuel { done with given := done.given ++ [(letter, given)] } rest
    | '-' :: c :: letters => do
      let (given, taken) ← table.readLetters rest.head? (c :: letters)
      read table fuel { done with given := done.given ++ given }
        (if taken then rest.drop 1 else rest)
    | word =>
      if table.strict then .ok { done with words := word :: rest }
      else read table fuel { done with words := done.words ++ [word] } rest

end OptionTable

/-! ## Complaints -/

/-- Complain as a program does. -/
def complainAs (tool : String) (message : Bytes) : Act Unit := do
  let _ ← writeTo 2 (bytes s!"{tool}: " ++ message ++ ['\n'])

/-- Complain about how a program is used. -/
def misused (tool : String) (status : Nat) (message : Bytes) : Act Nat := do
  complainAs tool (message ++ bytes s!"\nTry '{tool} --help' for more information.")
  return status

/-- A text in quotes, as programs show names. -/
def inQuotes (text : Bytes) : Bytes :=
  '\'' :: text ++ ['\'']

/-- Read the options of a program and go on with them. -/
def withOptions (tool : String) (table : OptionTable) (arguments : List Bytes)
    (act : ProgramOptions → Act Nat) (status : Nat) : Act Nat := do
  match table.read (arguments.length + 1) {} arguments with
  | .ok options => act options
  | .error reason => misused tool status (bytes reason)

/-! ## Output and input -/

/-- Write to standard output. That this was not possible is remembered. -/
def put (content : Bytes) : Act Unit := do
  unless (← writeTo 1 content) || content.isEmpty do
    changeSession fun session => { session with lostOutput := true }

/-- The input of a program of which so much is taken. -/
def takeInput (count : Supply → Option Nat) : Act (Except SystemError Supply) := do
  match ← takeFrom 0 count with
  | some supply => return .ok supply
  | none => return .error (.other "Bad file descriptor")

/-- The content of a file, or the input if the name is a dash. -/
def readNamed (name : Bytes) : Act (Except SystemError Supply) :=
  if name = ['-'] then takeInput fun _ => none else readFile name

/-- Use all inputs one after the other; a program without names reads the input. How one that cannot
be read is complained about is told. The result says whether all could be read. -/
def forInputs (names : List Bytes) (blame : Bytes → SystemError → Act Unit)
    (act : Bytes → Supply → Act Unit) : Act Bool := do
  let mut all := true
  for name in if names.isEmpty then [['-']] else names do
    match ← readNamed name with
    | .ok supply => act name supply
    | .error error =>
      blame name error
      all := false
  return all

/-- Complain about an input by its name. -/
def blameInput (tool : String) (name : Bytes) (error : SystemError) : Act Unit :=
  complainAs tool (name ++ bytes ": " ++ reasonOf error)

/-- All inputs in one. -/
def allInput (tool : String) (names : List Bytes) : Act (Bytes × Bool) := do
  let mut content : Bytes := []
  let mut all := true
  for name in if names.isEmpty then [['-']] else names do
    match ← readNamed name with
    | .ok supply => content := content ++ (← wholeOf supply)
    | .error error =>
      blameInput tool name error
      all := false
  return (content, all)

/-! ## Lines -/

/-- The pieces of a text that `separator` ends; the last one may lack it. -/
def cutLines (separator : Char) (text : Bytes) : List Bytes :=
  let (pieces, last) := text.foldl (fun (state : List Bytes × Bytes) c =>
    if c = separator then (state.2.reverse :: state.1, []) else (state.1, c :: state.2)) ([], [])
  (if last.isEmpty then pieces else last.reverse :: pieces).reverse

/-- Pieces in one, with `separator` behind each. -/
def joinLines (separator : Char) (pieces : List Bytes) : Bytes :=
  (pieces.foldl (fun done piece => separator :: piece.reverseAux done) []).reverse

end FlowCheck.Shell
