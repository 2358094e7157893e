import FlowCheck.Shell.Script

/-!
# Patterns

A pattern matches a whole text: a star matches any bytes, a question mark one byte, and brackets one
byte of a set. What is quoted in a pattern stands for itself.
-/

namespace FlowCheck.Shell

/-- Bytes of which each is quoted or not. -/
abbrev Marked := List (Char × Bool)

/-- A part of a pattern. -/
inductive Glob where
  | byte (c : Char)
  | one
  | many
  | set (negated : Bool) (members : List (Char → Bool))

/-- The class of bytes that a name in brackets and colons stands for. -/
def byteClass? (name : String) : Option (Char → Bool) :=
  let isPunctuation (c : Char) : Bool := '!' ≤ c && c ≤ '~' && !c.isAlphanum
  match name with
  | "alpha" => some Char.isAlpha
  | "digit" => some Char.isDigit
  | "alnum" => some Char.isAlphanum
  | "upper" => some Char.isUpper
  | "lower" => some Char.isLower
  | "space" => some fun c => c = ' ' || ('\t' ≤ c && c ≤ '\r')
  | "blank" => some fun c => c = ' ' || c = '\t'
  | "punct" => some isPunctuation
  | "print" => some fun c => ' ' ≤ c && c ≤ '~'
  | "graph" => some fun c => '!' ≤ c && c ≤ '~'
  | "cntrl" => some fun c => c < ' ' || c = '\x7f'
  | "xdigit" => some fun c => c.isDigit || ('a' ≤ c && c ≤ 'f') || ('A' ≤ c && c ≤ 'F')
  | _ => none

/-- The class at the beginning of a set behind its first bracket, and what follows it. -/
def leadingClass? (text : Marked) : Option ((Char → Bool) × Marked) :=
  match text with
  | (':', false) :: rest =>
    let name := (rest.map Prod.fst).takeWhile (· ≠ ':')
    match rest.drop name.length with
    | (':', false) :: (']', false) :: after =>
      (byteClass? (String.ofList name)).map fun members => (members, after)
    | _ => none
  | _ => none

/-- The members of a set behind its opening bracket, and the pattern behind it. -/
def setMembers : Nat → List (Char → Bool) → Marked → Option (List (Char → Bool) × Marked)
  | 0, _, _ | _, _, [] => none
  | fuel + 1, members, (c, quoted) :: rest =>
    if c = ']' && !quoted && !members.isEmpty then some (members, rest)
    else
      match if c = '[' && !quoted then leadingClass? rest else none with
      | some (isMember, after) => setMembers fuel (isMember :: members) after
      | none =>
        let (c, rest) := match c, quoted, rest with
          | '\\', false, (escaped, _) :: rest => (escaped, rest)
          | c, _, rest => (c, rest)
        match rest with
        | ('-', false) :: (last, lastQuoted) :: after =>
          if last = ']' && !lastQuoted then setMembers fuel ((· == c) :: members) rest
          else setMembers fuel ((fun d => decide (c ≤ d) && decide (d ≤ last)) :: members) after
        | rest => setMembers fuel ((· == c) :: members) rest

/-- The pattern that marked bytes are. -/
def globOf : Nat → Marked → List Glob
  | 0, _ | _, [] => []
  | fuel + 1, (c, true) :: rest => .byte c :: globOf fuel rest
  | fuel + 1, ('\\', false) :: (c, _) :: rest => .byte c :: globOf fuel rest
  | fuel + 1, ('*', false) :: rest => .many :: globOf fuel rest
  | fuel + 1, ('?', false) :: rest => .one :: globOf fuel rest
  | fuel + 1, ('[', false) :: rest =>
    let (negated, inner) := match rest with
      | ('!', false) :: inner => (true, inner)
      | inner => (false, inner)
    match setMembers (inner.length + 1) [] inner with
    | some (members, after) => .set negated members :: globOf fuel after
    | none => .byte '[' :: globOf fuel rest
  | fuel + 1, (c, false) :: rest => .byte c :: globOf fuel rest

/-- The pattern that marked bytes are. -/
def Marked.glob (text : Marked) : List Glob :=
  globOf (text.length + 1) text

/-- Whether marked bytes hold a sign of patterns. -/
def Marked.isPattern (text : Marked) : Bool :=
  text.any fun (c, quoted) => !quoted && (c = '*' || c = '?' || c = '[')

/-- Whether a pattern matches a whole text. -/
def Glob.matchAll : List Glob → Bytes → Bool
  | [], text => text.isEmpty
  | .many :: [], _ => true
  | .many :: pattern, [] => matchAll pattern []
  | .many :: pattern, c :: text => matchAll pattern (c :: text) || matchAll (.many :: pattern) text
  | _ :: _, [] => false
  | .byte b :: pattern, c :: text => b = c && matchAll pattern text
  | .one :: pattern, _ :: text => matchAll pattern text
  | .set negated members :: pattern, c :: text =>
    (members.any (· c) != negated) && matchAll pattern text
termination_by pattern text => pattern.length + text.length

/-- A text without the part at its front or its back that a pattern matches. -/
def Glob.cut (pattern : List Glob) (front longest : Bool) (text : Bytes) : Bytes :=
  let sizes := List.range (text.length + 1)
  let sizes := if longest then sizes.reverse else sizes
  match sizes.find? fun size =>
    if front then matchAll pattern (text.take size)
    else matchAll pattern (text.drop (text.length - size)) with
  | some size => if front then text.drop size else text.take (text.length - size)
  | none => text

end FlowCheck.Shell
