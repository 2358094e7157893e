/-!
# Styles of terminal text

A styled text stands between the escape sequences of its style and the sequence that ends all
styles.
-/

namespace FlowCheck

/-- The colours in use. -/
inductive Colour where
  | red
  | green
  | yellow
  deriving Repr, DecidableEq

/-- The number of a colour in an escape sequence. -/
def Colour.code : Colour → Nat
  | .red => 31
  | .green => 32
  | .yellow => 33

/-- How a text looks. -/
structure Style where
  colour : Option Colour := none
  bold : Bool := false
  dim : Bool := false
  deriving Repr, DecidableEq

/-- The escape sequence with a number. -/
def escapeSequence (code : Nat) : List Char :=
  '\x1b' :: '[' :: (Nat.toDigits 10 code ++ ['m'])

namespace Style

/-- The numbers of a style's escape sequences: the colour comes first. -/
def codes (style : Style) : List Nat :=
  (style.colour.map Colour.code).toList ++
    (if style.bold then [1] else []) ++ (if style.dim then [2] else [])

/-- A text in a style. A style without features writes no escape sequence. -/
def paint (style : Style) (text : List Char) : List Char :=
  if style.codes.isEmpty then text
  else style.codes.flatMap escapeSequence ++ text ++ escapeSequence 0

end Style

end FlowCheck
