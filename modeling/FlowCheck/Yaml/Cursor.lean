import FlowCheck.Yaml.Character

/-!
# Cursors

A cursor is what is left of a text, together with the place where it begins.
-/

namespace FlowCheck.Yaml

/-- A place in a text; everything counts from zero. The index counts octets, the column counts
characters. -/
structure Mark where
  index : Nat := 0
  line : Nat := 0
  column : Nat := 0
  deriving Repr, DecidableEq

/-- The place after a character. -/
def Mark.after (mark : Mark) (c : Char) : Mark :=
  if isBreak c then ⟨mark.index + c.utf8Size, mark.line + 1, 0⟩
  else ⟨mark.index + c.utf8Size, mark.line, mark.column + 1⟩

/-- What is left of a text, and where it begins. -/
structure Cursor where
  rest : List Char
  mark : Mark := {}
  deriving Repr, DecidableEq

namespace Cursor

/-- The cursor behind the next `count` characters. -/
def skip (cursor : Cursor) : Nat → Cursor
  | 0 => cursor
  | count + 1 =>
    match cursor.rest with
    | [] => cursor
    | c :: rest => skip ⟨rest, cursor.mark.after c⟩ count

/-- The leading characters of a class. -/
def leading (cursor : Cursor) (isMember : Char → Bool) : List Char :=
  cursor.rest.takeWhile isMember

/-- The cursor behind the leading characters of a class. -/
def skipAll (cursor : Cursor) (isMember : Char → Bool) : Cursor :=
  cursor.skip (cursor.leading isMember).length

/-- Whether a marker of document boundaries stands here. -/
def atDocumentMarker (column : Nat) : List Char → Bool
  | a :: b :: c :: rest =>
    column = 0 && ((a = '-' && b = '-' && c = '-') || (a = '.' && b = '.' && c = '.')) &&
      isGap rest.head?
  | _ => false

/-- The cursor behind the blanks and the comment that may end a line; nothing else may. -/
def skipLineEnd? (cursor : Cursor) : Option Cursor :=
  let cursor := cursor.skipAll isBlank
  let cursor := if cursor.rest.head? = some '#' then cursor.skipAll (!isBreak ·) else cursor
  match cursor.rest with
  | [] => some cursor
  | c :: rest => if isBreak c then some ⟨rest, cursor.mark.after c⟩ else none

end Cursor

end FlowCheck.Yaml
