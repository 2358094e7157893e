import FlowCheck.Shell.Filter
import FlowCheck.Shell.Format

/-!
# Changing bytes

The program that replaces, drops and squeezes bytes one by one.
-/

namespace FlowCheck.Shell

/-- A member of a set of bytes: bytes in order, or one that is repeated as often as is needed. -/
inductive SetPart where
  | members (members : Bytes)
  | filler (c : Char)

/-- All bytes. -/
def allBytes : Bytes :=
  (List.range 256).map Char.ofNat

/-- The byte that a set begins with, escapes read, and the text after it. -/
def leadingMember (text : Bytes) : Option (Char × Bytes) :=
  match text with
  | '\\' :: c :: rest =>
    match if c = 'e' then none else escapedByte? c with
    | some byte => some (byte, rest)
    | none =>
      if '0' ≤ c && c ≤ '7' then
        let (byte, after) := leadingOctal 3 (c :: rest)
        some (byte, after)
      else some (c, rest)
  | c :: rest => some (c, rest)
  | [] => none

/-- The part in brackets that a set begins with, and the text after it. -/
def bracketPart? (text : Bytes) : Option (SetPart × Bytes) :=
  match text with
  | '[' :: ':' :: rest =>
    let name := rest.takeWhile (· ≠ ':')
    match rest.drop name.length, byteClass? (String.ofList name) with
    | ':' :: ']' :: after, some isMember => some (.members (allBytes.filter isMember), after)
    | _, _ => none
  | '[' :: '=' :: c :: '=' :: ']' :: after => some (.members [c], after)
  | '[' :: rest =>
    match leadingMember rest with
    | some (c, '*' :: after) =>
      let count := after.takeWhile Char.isDigit
      match after.drop count.length with
      | ']' :: after =>
        let number := if count.head? = some '0' then (leadingDigits 8 count).1 else naturalOf count
        if number = 0 then some (.filler c, after)
        else some (.members (List.replicate number c), after)
      | _ => none
    | _ => none
  | _ => none

/-- The parts of a set. -/
def setParts : Nat → Bytes → Except Bytes (List SetPart)
  | 0, _ | _, [] => .ok []
  | fuel + 1, text =>
    match bracketPart? text with
    | some (part, after) => return part :: (← setParts fuel after)
    | none =>
      match leadingMember text with
      | none => .ok []
      | some (first, '-' :: after) =>
        match leadingMember after with
        | none => .ok [.members [first], .members ['-']]
        | some (last, after) =>
          if last < first then
            .error (bytes "range-endpoints of '" ++ [first, '-', last] ++
              bytes "' are in reverse collating sequence order")
          else do
            let members := allBytes.filter fun c => first ≤ c && c ≤ last
            return .members members :: (← setParts fuel after)
      | some (first, after) => return .members [first] :: (← setParts fuel after)

/-- The bytes of parts, fillers making them as many as are wanted. -/
def membersOf (parts : List SetPart) (wanted : Nat) : Bytes :=
  let fixed := parts.foldl (fun total part =>
    match part with
    | .members members => total + members.length
    | .filler _ => total) 0
  parts.flatMap fun
    | .members members => members
    | .filler c => List.replicate (wanted - fixed) c

/-- A text in which a run of one byte of a set is a single byte. -/
def squeeze (isMember : Char → Bool) (text : Bytes) : Bytes :=
  (text.foldl (fun done c =>
    if done.head? = some c && isMember c then done else c :: done) []).reverse

/-- Replace, drop or squeeze the bytes of the input. -/
def translateBytes (arguments : List Bytes) : Act Nat :=
  let table : OptionTable :=
    { letters := "cCdst"
      names := [("complement", 'c'), ("delete", 'd'), ("squeeze-repeats", 's'),
        ("truncate-set1", 't')]
      strict := true }
  withOptions "tr" table arguments (fun options => do
    let complement := options.has 'c' || options.has 'C'
    let deletes := options.has 'd'
    let squeezes := options.has 's'
    let words := options.words
    let least := if deletes == squeezes then 2 else 1
    let most := if deletes && !squeezes then 1 else 2
    if words.isEmpty then misused "tr" 1 (bytes "missing operand")
    else if words.length < least then
      let reason := if squeezes then
          "Two strings must be given when both deleting and squeezing repeats."
        else "Two strings must be given when translating."
      misused "tr" 1
        (bytes "missing operand after " ++ inQuotes (words.headD []) ++ bytes ("\n" ++ reason))
    else if most < words.length then
      let reason := if most = 1 then
          "\nOnly one string may be given when deleting without squeezing repeats."
        else ""
      misused "tr" 1
        (bytes "extra operand " ++ inQuotes ((words[most]?).getD []) ++ bytes reason)
    else
      match words.mapM fun word => setParts (word.length + 1) word with
      | .error reason =>
        complainAs "tr" reason
        return 1
      | .ok sets =>
        let plain := membersOf (sets.headD []) 0
        let first := if complement then allBytes.filter fun c => !plain.contains c else plain
        let second := (sets.drop 1).head?.map fun parts => membersOf parts first.length
        let translates := second.isSome && !deletes
        let table : List (Char × Char) := match second with
          | some second =>
            let full := if options.has 't' then second
              else second ++ List.replicate (first.length - second.length) (second.getLastD ' ')
            -- Of several places for one byte the last one counts.
            (first.zip full).reverse
          | none => []
        if translates && (second.getD []).isEmpty && !first.isEmpty && !options.has 't' then
          complainAs "tr" (bytes "when not truncating set1, string2 must be non-empty")
          return 1
        let input ← takeInput fun _ => none
        match input with
        | .error error =>
          complainAs "tr" (bytes "read error: " ++ reasonOf error)
          return 1
        | .ok supply =>
          let change (c : Char) : Char := if translates then (table.lookup c).getD c else c
          if !deletes && !squeezes then
            put (supply.content.map change)
            if supply.isEndless then writeForever (supply.cycle.map change)
          else
            let text ← wholeOf supply
            let kept := if deletes then text.filter fun c => !first.contains c else text.map change
            let squeezed := (second.getD first)
            put (if squeezes then squeeze squeezed.contains kept else kept)
          return 0) 1

end FlowCheck.Shell
