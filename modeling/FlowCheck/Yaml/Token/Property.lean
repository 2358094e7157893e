import FlowCheck.Yaml.Cursor
import FlowCheck.Yaml.Token

/-!
# Directives, anchors, aliases and tags

The tokens that begin with a percent sign, an ampersand, an asterisk or an exclamation mark. All of
them end on the line they begin on.
-/

namespace FlowCheck.Yaml

/-- The name of an anchor, after its indicator. -/
def readAnchorName (cursor : Cursor) : Option (List Char × Cursor) :=
  let name := cursor.leading isNameChar
  let after := cursor.skip name.length
  let ends := isGap after.rest.head? ||
    after.rest.head?.any fun c => "?:,]\x7d%@\x60".toList.contains c
  if !name.isEmpty && ends then some (name, after) else none

/-- A character of a tag. Three of them only count when the tag is written out in full. -/
def isTagChar (full : Bool) (c : Char) : Bool :=
  isNameChar c || ";/?:@&=+$.%!~*'()".toList.contains c || (full && ",[]".toList.contains c)

/-- How many octets follow the first one of a character. -/
def trailingOctets? (first : Nat) : Option Nat :=
  if first < 0x80 then some 0
  else if first / 0x20 = 6 then some 1
  else if first / 0x10 = 14 then some 2
  else if first / 0x08 = 30 then some 3
  else none

/-- The octets of a tag and the number of characters that write them. `trailing` octets of a
character are still to come, all of them escaped. -/
def tagOctets? (full : Bool) (trailing : Nat) : List Char → Option (List UInt8 × Nat)
  | [] => if trailing = 0 then some ([], 0) else none
  | '%' :: high :: low :: rest => do
    let octet := 16 * (← hexValue? high) + (← hexValue? low)
    let left ←
      if trailing = 0 then trailingOctets? octet
      else if octet / 0x40 = 2 then some (trailing - 1)
      else none
    let (octets, count) ← tagOctets? full left rest
    return (octet.toUInt8 :: octets, count + 3)
  | c :: rest =>
    if trailing ≠ 0 || c = '%' then none
    else if isTagChar full c then do
      let (octets, count) ← tagOctets? full 0 rest
      return (c.toNat.toUInt8 :: octets, count + 1)
    else some ([], 0)

/-- A tag's octets up to the first zero, which ends them. -/
def untilZero (octets : List UInt8) : List UInt8 :=
  octets.takeWhile (· ≠ 0)

/-- The handle at the beginning of a tag: from one exclamation mark up to another, which may be
missing. -/
def tagHandle (cursor : Cursor) : List Char :=
  let name := (cursor.rest.drop 1).takeWhile isNameChar
  if (cursor.rest.drop (1 + name.length)).head? = some '!' then '!' :: (name ++ ['!'])
  else '!' :: name

/-- A tag, at its exclamation mark. -/
def readTag (flow : Bool) (cursor : Cursor) : Option (Token × Cursor) := do
  let (token, after) ←
    if (cursor.rest.drop 1).head? = some '<' then do
      let start := cursor.skip 2
      let (octets, count) ← tagOctets? true 0 start.rest
      let after := start.skip count
      if octets.isEmpty || after.rest.head? ≠ some '>' then none
      else some (Token.tag [] (untilZero octets), after.skip 1)
    else do
      let handle := tagHandle cursor
      let start := cursor.skip handle.length
      let (octets, count) ← tagOctets? false 0 start.rest
      let after := start.skip count
      if handle.length > 1 && handle.getLast? = some '!' then
        if octets.isEmpty then none else some (Token.tag handle (untilZero octets), after)
      else
        match untilZero ((handle.drop 1).map (fun c => c.toNat.toUInt8) ++ octets) with
        | [] => some (Token.tag [] ['!'.toNat.toUInt8], after)
        | suffix => some (Token.tag ['!'] suffix, after)
  if isGap after.rest.head? || (flow && after.rest.head? = some ',') then some (token, after)
  else none

/-- A number of up to nine digits. -/
def readShortNumber (cursor : Cursor) : Option (Nat × Cursor) :=
  let digits := cursor.leading fun c => '0' ≤ c && c ≤ '9'
  if digits.isEmpty || digits.length > 9 then none
  else
    let value := digits.foldl (fun value c => 10 * value + (c.toNat - 48)) 0
    some (value, cursor.skip digits.length)

/-- What follows the name of a version directive. -/
def readVersion (cursor : Cursor) : Option (Token × Cursor) := do
  let (major, after) ← readShortNumber (cursor.skipAll isBlank)
  if after.rest.head? ≠ some '.' then none
  let (minor, after) ← readShortNumber (after.skip 1)
  return (.versionDirective major minor, after)

/-- What follows the name of a tag directive. -/
def readTagDirective (cursor : Cursor) : Option (Token × Cursor) := do
  let cursor := cursor.skipAll isBlank
  if cursor.rest.head? ≠ some '!' then none
  let handle := tagHandle cursor
  if handle.length > 1 && handle.getLast? ≠ some '!' then none
  let after := cursor.skip handle.length
  if !after.rest.head?.any isBlank then none
  let start := after.skipAll isBlank
  let (octets, count) ← tagOctets? true 0 start.rest
  let after := start.skip count
  if octets.isEmpty || !isGap after.rest.head? then none
  return (.tagDirective handle (untilZero octets), after)

/-- A directive, at its percent sign, with the rest of its line. -/
def readDirective (cursor : Cursor) : Option (Token × Cursor) := do
  let start := cursor.skip 1
  let name := start.leading isNameChar
  let after := start.skip name.length
  if !isGap after.rest.head? then none
  let (token, after) ←
    if name = "YAML".toList then readVersion after
    else if name = "TAG".toList then readTagDirective after
    else none
  return (token, ← after.skipLineEnd?)

end FlowCheck.Yaml
