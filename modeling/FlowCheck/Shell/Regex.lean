import FlowCheck.Shell.Pattern

/-!
# Regular expressions

Regular expressions in their basic and their extended form. A match begins as far to the left as
possible and from there is as long as possible.

Matching follows all possibilities at once: it turns a spot of a text into the spots at which a part
of it that matches can end, the preferred one first. Of two ways to one spot only the preferred one
is kept, so the number of spots never exceeds the length of the text, unless an expression refers
back to what it has matched.
-/

namespace FlowCheck.Shell

/-- A regular expression. -/
inductive Regex where
  | empty
  /-- One byte that passes a test. -/
  | one (isMember : Char → Bool)
  /-- A place that passes a test of the bytes before it and behind it. -/
  | place (test : Option Char → Option Char → Bool)
  | sequence (first second : Regex)
  | either (first second : Regex)
  | repeated (least : Nat) (most : Option Nat) (inner : Regex)
  | group (number : Nat) (inner : Regex)
  /-- What a group has matched. -/
  | again (number : Nat)

/-- What a group has matched: from where, and up to where. -/
structure GroupMatch where
  number : Nat
  start : Nat
  stop : Nat
  deriving Repr, DecidableEq

/-- A spot in a text that matching has come to. -/
structure Spot where
  index : Nat
  /-- The byte before the spot. -/
  before : Option Char
  rest : Bytes
  groups : List GroupMatch := []

namespace Regex

/-- Whether an expression refers back to a group. -/
def refersBack : Regex → Bool
  | .again _ => true
  | .sequence a b | .either a b => a.refersBack || b.refersBack
  | .repeated _ _ inner | .group _ inner => inner.refersBack
  | .empty | .one _ | .place _ => false

/-- Whether an expression has a group. -/
def hasGroup : Regex → Bool
  | .group .. => true
  | .sequence a b | .either a b => a.hasGroup || b.hasGroup
  | .repeated _ _ inner => inner.hasGroup
  | .empty | .one _ | .place _ | .again _ => false

/-- Whether two spots are the same for all that can follow. Groups matter only if `exact`. -/
def sameSpot (exact : Bool) (a b : Spot) : Bool :=
  a.index = b.index && (!exact || a.groups = b.groups)

/-- Spots without those that come again. -/
def distinctSpots (exact : Bool) (spots : List Spot) : List Spot :=
  (spots.foldl (fun kept spot =>
    if kept.any (sameSpot exact spot) then kept else spot :: kept) []).reverse

/-- The spot behind some bytes. -/
def Spot.skip (spot : Spot) (count : Nat) : Spot :=
  match count, spot.rest with
  | count + 1, c :: rest => Spot.skip ⟨spot.index + 1, some c, rest, spot.groups⟩ count
  | _, _ => spot

/-- The spots that repeating reaches. Each round begins where the one before has ended; the later
rounds are preferred. -/
def repeatedSpots (exact : Bool) (round : Spot → List Spot) (least : Nat) (most : Option Nat) :
    Nat → Nat → List Spot → List Spot → List Spot
  | 0, _, _, found => found
  | fuel + 1, count, frontier, found =>
    let found := if least ≤ count then distinctSpots exact (frontier ++ found) else found
    if most.any (· ≤ count) then found
    else
      let next := distinctSpots exact (frontier.flatMap round)
      let fresh := if count < least then next
        else next.filter fun spot => !found.any (sameSpot exact spot)
      if fresh.isEmpty then found
      else repeatedSpots exact round least most fuel (count + 1) fresh found

/-- The spots at which a part of a text that matches can end. -/
def ends (text : Bytes) (exact : Bool) : Regex → Spot → List Spot
  | .empty, spot => [spot]
  | .one isMember, spot =>
    match spot.rest with
    | c :: rest => if isMember c then [⟨spot.index + 1, some c, rest, spot.groups⟩] else []
    | [] => []
  | .place test, spot => if test spot.before spot.rest.head? then [spot] else []
  | .sequence a b, spot =>
    distinctSpots exact ((ends text exact a spot).flatMap (ends text exact b))
  | .either a b, spot => distinctSpots exact (ends text exact a spot ++ ends text exact b spot)
  | .repeated least most inner, spot =>
    repeatedSpots exact (ends text exact inner) least most (spot.rest.length + least + 2) 0
      [spot] []
  | .group number inner, spot =>
    (ends text exact inner spot).map fun after =>
      let others := after.groups.filter fun group => group.number ≠ number
      { after with groups := ⟨number, spot.index, after.index⟩ :: others }
  | .again number, spot =>
    match spot.groups.find? fun entry => entry.number = number with
    | some found =>
      let content := (text.drop found.start).take (found.stop - found.start)
      if content.isPrefixOf spot.rest then [Spot.skip spot content.length] else []
    | none => []

/-- The longest match that begins at a spot, of those that are accepted. -/
def longestFrom (accepts : Spot → Spot → Bool) (text : Bytes) (expression : Regex) (spot : Spot) :
    Option Spot :=
  (ends text expression.refersBack expression spot).foldl (fun best stop =>
    if !accepts spot stop then best
    else
      match best with
      | some other => if other.index < stop.index then some stop else best
      | none => some stop) none

/-- A match: where it begins, and the spot behind it. -/
structure Match where
  start : Nat
  stop : Spot

/-- The first match from a spot on, of those that are accepted. -/
def searchFrom (accepts : Spot → Spot → Bool) (text : Bytes) (expression : Regex) :
    Nat → Spot → Option Match
  | 0, _ => none
  | fuel + 1, spot =>
    match longestFrom accepts text expression spot with
    | some stop => some ⟨spot.index, stop⟩
    | none =>
      match spot.rest with
      | [] => none
      | c :: rest => searchFrom accepts text expression fuel ⟨spot.index + 1, some c, rest, []⟩

/-- The spot at the beginning of a text. -/
def beginning (text : Bytes) : Spot :=
  ⟨0, none, text, []⟩

/-- The first match in a text. -/
def search (expression : Regex) (text : Bytes) : Option Match :=
  searchFrom (fun _ _ => true) text expression (text.length + 1) (beginning text)

/-- The match at the beginning of a text. -/
def matchStart (expression : Regex) (text : Bytes) : Option Match :=
  (longestFrom (fun _ _ => true) text expression (beginning text)).map fun stop => ⟨0, stop⟩

/-- What a group has matched in a text; group zero is everything. -/
def Match.group (found : Match) (text : Bytes) (number : Nat) : Bytes :=
  let part (start stop : Nat) : Bytes := (text.drop start).take (stop - start)
  if number = 0 then part found.start found.stop.index
  else
    match found.stop.groups.find? fun group => group.number = number with
    | some group => part group.start group.stop
    | none => []

/-! ## Reading expressions -/

/-- A token of an expression. -/
inductive RegexToken where
  /-- An expression of its own. -/
  | atom (expression : Regex)
  | repetition (least : Nat) (most : Option Nat)
  | openGroup (number : Nat)
  | closeGroup
  | bar

/-- How an expression is written. -/
structure Dialect where
  extended : Bool := false
  ignoresCase : Bool := false
  /-- Whether letters behind backslashes stand for bytes that cannot be written. -/
  escapes : Bool := false
  /-- Whether a bracket that closes no group, and a repetition of nothing, are no mistakes. -/
  lenient : Bool := false

/-- Whether a byte belongs to a word. -/
def isWordByte (c : Char) : Bool :=
  c.isAlphanum || c = '_'

/-- An expression of one byte, whose case may not matter. -/
def oneOf (dialect : Dialect) (isMember : Char → Bool) : Regex :=
  if dialect.ignoresCase then .one fun c => isMember c || isMember c.toLower || isMember c.toUpper
  else .one isMember

/-- An expression of a given byte. -/
def byte (dialect : Dialect) (c : Char) : Regex :=
  oneOf dialect (· == c)

/-- The end of a line's beginning or the like, by the letter behind a backslash. -/
def wordPlace? (letter : Char) : Option Regex :=
  let inWord (c : Option Char) : Bool := c.any isWordByte
  match letter with
  | '<' => some (.place fun before behind => !inWord before && inWord behind)
  | '>' => some (.place fun before behind => inWord before && !inWord behind)
  | 'b' => some (.place fun before behind => inWord before != inWord behind)
  | 'B' => some (.place fun before behind => inWord before == inWord behind)
  | '\x60' => some (.place fun before _ => before.isNone)
  | '\'' => some (.place fun _ behind => behind.isNone)
  | _ => none

/-- The set of bytes by the letter behind a backslash. -/
def letterSet? (letter : Char) : Option (Char → Bool) :=
  match letter with
  | 'w' => some isWordByte
  | 'W' => some fun c => !isWordByte c
  | 's' => some fun c => c = ' ' || ('\t' ≤ c && c ≤ '\r')
  | 'S' => some fun c => !(c = ' ' || ('\t' ≤ c && c ≤ '\r'))
  | _ => none

/-- The byte by the letter behind a backslash, where letters stand for bytes. -/
def letterByte? (letter : Char) : Option Char :=
  match letter with
  | 'n' => some '\n'
  | 't' => some '\t'
  | 'f' => some '\x0c'
  | 'v' => some '\x0b'
  | 'r' => some '\r'
  | 'a' => some '\x07'
  | _ => none

/-- The members of a set behind its bracket and a caret, and the text behind it. -/
def bracketMembers (dialect : Dialect) :
    Nat → List (Char → Bool) → Bytes → Except String (List (Char → Bool) × Bytes)
  | 0, _, _ | _, _ :: _, [] => .error "Unmatched [, [^, [:, [., or [="
  | _, [], [] => .error "Invalid regular expression"
  | fuel + 1, members, c :: rest =>
    if c = ']' && !members.isEmpty then .ok (members, rest)
    else
      match c, rest with
      | '[', ':' :: rest =>
        let name := rest.takeWhile (· ≠ ':')
        match rest.drop name.length, byteClass? (String.ofList name) with
        | ':' :: ']' :: after, some isMember =>
          bracketMembers dialect fuel (isMember :: members) after
        | ':' :: ']' :: _, none => .error "Invalid character class name"
        | _, _ => .error "Unmatched [, [^, [:, [., or [="
      | c, rest =>
        let (c, rest) : Char × Bytes := match c, rest with
          | '[', '.' :: d :: '.' :: ']' :: rest | '[', '=' :: d :: '=' :: ']' :: rest => (d, rest)
          | '\\', d :: rest' => if dialect.escapes then
              match letterByte? d with
              | some byte => (byte, rest')
              | none => ('\\', rest)
            else ('\\', rest)
          | c, rest => (c, rest)
        match rest with
        | '-' :: ']' :: _ => bracketMembers dialect fuel ((· == c) :: members) rest
        | '-' :: last :: after =>
          if last < c then .error "Invalid range end"
          else bracketMembers dialect fuel
            ((fun d => decide (c ≤ d) && decide (d ≤ last)) :: members) after
        | rest => bracketMembers dialect fuel ((· == c) :: members) rest

/-- The bounds of a repetition between braces, and the text behind them. The closing brace has a
backslash in front in a basic expression. -/
def bounds? (extended : Bool) (text : Bytes) : Option (Nat × Option Nat × Bytes) :=
  let number (digits : Bytes) : Nat :=
    digits.foldl (fun value c => 10 * value + (c.toNat - '0'.toNat)) 0
  let least := text.takeWhile Char.isDigit
  let after := text.drop least.length
  let (most, after) := match after with
    | ',' :: after =>
      let most := after.takeWhile Char.isDigit
      (if most.isEmpty then none else some (number most), after.drop most.length)
    | after => (some (number least), after)
  let isPlain := least.isEmpty && text.head? ≠ some ','
  let close : Option Bytes := match extended, after with
    | true, '\x7d' :: after => some after
    | false, '\\' :: '\x7d' :: after => some after
    | _, _ => none
  if isPlain then none else close.map fun after => (number least, most, after)

/-- Whether an expression can begin behind some tokens, given last first. -/
def beginsExpression : List RegexToken → Bool
  | [] | .openGroup _ :: _ | .bar :: _ => true
  | _ => false

/-- Whether an expression can end before a text. -/
def endsExpression (dialect : Dialect) (text : Bytes) : Bool :=
  match text with
  | [] => true
  | c :: rest =>
    if dialect.extended then c = ')' || c = '|'
    else c = '\\' && (rest.head? = some ')' || rest.head? = some '|')

/-- The place at the beginning of a text. -/
def textStart : Regex :=
  .place fun before _ => before.isNone

/-- The place at the end of a text. -/
def textEnd : Regex :=
  .place fun _ behind => behind.isNone

/-- The tokens of an expression. -/
def regexTokens (dialect : Dialect) :
    Nat → Nat → Nat → List RegexToken → Bytes → Except String (List RegexToken)
  | 0, _, _, done, _ => .ok done.reverse
  | _ + 1, _, depth, done, [] =>
    if depth ≠ 0 then .error "Unmatched ( or \\(" else .ok done.reverse
  | fuel + 1, groups, depth, done, c :: rest =>
    let goOn (token : RegexToken) (after : Bytes) : Except String (List RegexToken) :=
      regexTokens dialect fuel groups depth (token :: done) after
    let literal (c : Char) (after : Bytes) : Except String (List RegexToken) :=
      goOn (.atom (byte dialect c)) after
    let openGroup (after : Bytes) : Except String (List RegexToken) :=
      regexTokens dialect fuel (groups + 1) (depth + 1) (.openGroup (groups + 1) :: done) after
    let closeGroup (after : Bytes) : Except String (List RegexToken) :=
      match depth with
      | 0 => if dialect.lenient && dialect.extended then literal ')' after
        else .error "Unmatched ) or \\)"
      | depth + 1 => regexTokens dialect fuel groups depth (.closeGroup :: done) after
    let repetition (least : Nat) (most : Option Nat) (after : Bytes) :
        Except String (List RegexToken) :=
      if most.any (· < least) then .error "Invalid content of \\\x7b\\\x7d"
      else if 32767 < most.getD least then .error "Regular expression too big"
      else goOn (.repetition least most) after
    -- A repetition of nothing.
    let nothing (after : Bytes) : Except String (List RegexToken) :=
      if dialect.lenient then goOn (.atom .empty) after
      else .error "Invalid preceding regular expression"
    let badBounds (after : Bytes) : Except String (List RegexToken) :=
      .error (if after.contains '\x7d' then "Invalid content of \\\x7b\\\x7d"
        else "Unmatched \\\x7b")
    let first := beginsExpression done
    match c, rest with
    | '\\', [] => .error "Trailing backslash"
    | '\\', d :: after =>
      match if dialect.extended then none else some d with
      | some '(' => openGroup after
      | some ')' => closeGroup after
      | some '|' => goOn .bar after
      | some '+' => if first then literal '+' after else repetition 1 none after
      | some '?' => if first then literal '?' after else repetition 0 (some 1) after
      | some '\x7b' =>
        match bounds? false after with
        | some (least, most, after) =>
          if !first then repetition least most after
          else if dialect.lenient then literal '\x7b' (rest.drop 1)
          else nothing after
        | none => badBounds after
      | _ =>
        if d.isDigit && d ≠ '0' then
          let number := d.toNat - '0'.toNat
          if groups < number then .error "Invalid back reference"
          else goOn (.atom (.again number)) after
        else
          match wordPlace? d, letterSet? d, if dialect.escapes then letterByte? d else none with
          | some expression, _, _ => goOn (.atom expression) after
          | none, some isMember, _ => goOn (.atom (oneOf dialect isMember)) after
          | none, none, some byte => literal byte after
          | none, none, none => literal d after
    | '[', rest =>
      let (negated, inner) := match rest with
        | '^' :: inner => (true, inner)
        | inner => (false, inner)
      match bracketMembers dialect (inner.length + 1) [] inner with
      | .error reason => .error reason
      | .ok (members, after) =>
        let isMember (c : Char) : Bool := members.any (· c)
        let folded (c : Char) : Bool :=
          if dialect.ignoresCase then isMember c || isMember c.toLower || isMember c.toUpper
          else isMember c
        goOn (.atom (.one fun c => folded c != negated)) after
    | '.', rest => goOn (.atom (.one fun _ => true)) rest
    | '*', rest =>
      let afterPlace := match done with
        | .atom (.place _) :: _ => true
        | _ => false
      let afterRepetition := match done with
        | .repetition .. :: _ => true
        | _ => false
      if first || afterPlace then
        if dialect.extended then nothing rest else literal '*' rest
      else if afterRepetition && !dialect.extended && !dialect.lenient then
        .error "Invalid preceding regular expression"
      else repetition 0 none rest
    | '^', rest =>
      if dialect.extended || first then goOn (.atom textStart) rest else literal '^' rest
    | '$', rest =>
      if dialect.extended || endsExpression dialect rest then goOn (.atom textEnd) rest
      else literal '$' rest
    | c, rest =>
      if !dialect.extended then literal c rest
      else match c with
        | '(' => openGroup rest
        | ')' => closeGroup rest
        | '|' => goOn .bar rest
        | '+' => if first then nothing rest else repetition 1 none rest
        | '?' => if first then nothing rest else repetition 0 (some 1) rest
        | '\x7b' =>
          match bounds? true rest with
          | some (least, most, after) =>
            if first then nothing after else repetition least most after
          | none => if dialect.lenient then literal '\x7b' rest else badBounds rest
        | c => literal c rest

/-- An open group, or the whole expression: the branches before the last bar, and the parts of the
branch that is being read, everything last first. -/
structure RegexFrame where
  number : Option Nat := none
  branches : List Regex := []
  parts : List Regex := []

namespace RegexFrame

/-- The branch that is being read. -/
def branch (frame : RegexFrame) : Regex :=
  match frame.parts with
  | [] => .empty
  | last :: before => before.foldl (fun rest part => .sequence part rest) last

/-- The expression of a frame. -/
def expression (frame : RegexFrame) : Regex :=
  frame.branches.foldl (fun rest branch => .either branch rest) frame.branch

/-- The frame with one more part. -/
def add (frame : RegexFrame) (part : Regex) : RegexFrame :=
  { frame with parts := part :: frame.parts }

end RegexFrame

/-- The expression that tokens make, the open groups given innermost first. -/
def ofTokens : List RegexFrame → List RegexToken → Regex
  | [], _ => .empty
  | frame :: outer, [] =>
    match outer with
    | [] => frame.expression
    | parent :: outer => ofTokens (parent.add frame.expression :: outer) []
  | frame :: outer, token :: rest =>
    match token with
    | .atom expression => ofTokens (frame.add expression :: outer) rest
    | .bar => ofTokens ({ frame with branches := frame.branch :: frame.branches, parts := [] } ::
        outer) rest
    | .repetition least most =>
      match frame.parts with
      | [] => ofTokens (frame :: outer) rest
      | part :: before =>
        ofTokens ({ frame with parts := .repeated least most part :: before } :: outer) rest
    | .openGroup number => ofTokens ({ number := some number } :: frame :: outer) rest
    | .closeGroup =>
      match outer with
      | [] => ofTokens [frame] rest
      | parent :: outer =>
        let expression := match frame.number with
          | some number => Regex.group number frame.expression
          | none => frame.expression
        ofTokens (parent.add expression :: outer) rest
termination_by frames tokens => (tokens.length, frames.length)

/-- The expression that a text writes, or what is wrong with it. -/
def parse (dialect : Dialect) (text : Bytes) : Except String Regex := do
  let tokens ← regexTokens dialect (text.length + 1) 0 0 [] text
  return ofTokens [{}] tokens

/-- The expression of a fixed text. -/
def fixed (dialect : Dialect) (text : Bytes) : Regex :=
  text.foldr (fun c rest => .sequence (byte dialect c) rest) .empty

end Regex

end FlowCheck.Shell
