import FlowCheck.Json.Value

/-!
# Writing JSON

Values are written either on one line without blanks or over several lines with two blanks of
indentation. Quotes, backslashes and control characters are escaped; everything else stands as it
is.
-/

namespace FlowCheck.Json

/-- A digit below sixteen in lower case. -/
def hexDigit (n : Nat) : Char :=
  if n < 10 then Char.ofNat (48 + n) else Char.ofNat (87 + n)

/-- A character inside a string. -/
def escape (c : Char) : List Char :=
  if c = '"' then ['\\', '"']
  else if c = '\\' then ['\\', '\\']
  else if c = '\n' then ['\\', 'n']
  else if c = '\r' then ['\\', 'r']
  else if c = '\t' then ['\\', 't']
  else if c = '\x08' then ['\\', 'b']
  else if c = '\x0c' then ['\\', 'f']
  else if c.toNat < 0x20 then
    ['\\', 'u', '0', '0', hexDigit (c.toNat / 16), hexDigit (c.toNat % 16)]
  else [c]

/-- A string in its quotes. -/
def quote (chars : List Char) : List Char :=
  '"' :: (chars.flatMap escape ++ ['"'])

/-- A numeral as it was read. -/
def Numeral.chars (numeral : Numeral) : List Char :=
  (if numeral.negative then ['-'] else []) ++ numeral.whole ++
    (if numeral.fraction.isEmpty then [] else '.' :: numeral.fraction) ++
    match numeral.exponent with
    | none => []
    | some (negative, digits) => 'e' :: ((if negative then ['-'] else []) ++ digits)

/-- A number in decimal digits. -/
def Number.chars : Number → List Char
  | .integer value => (if value < 0 then ['-'] else []) ++ Nat.toDigits 10 value.natAbs
  | .real numeral => numeral.chars

namespace Value

/-- The characters between the brackets of a container are separated by commas. -/
def commaSeparated (separator : List Char) : List (List Char) → List Char
  | [] => []
  | [last] => last
  | first :: rest => first ++ ',' :: separator ++ commaSeparated separator rest

mutual

/-- A value on one line. -/
def compact : Value → List Char
  | .null => "null".toList
  | .bool value => if value then "true".toList else "false".toList
  | .number written => written.chars
  | .text content => quote content.toList
  | .array items => '[' :: (commaSeparated [] (compactItems items) ++ [']'])
  | .object members => '{' :: (commaSeparated [] (compactMembers members) ++ ['}'])

/-- The items of an array, each on one line. -/
def compactItems : List Value → List (List Char)
  | [] => []
  | item :: rest => compact item :: compactItems rest

/-- The members of an object, each on one line. -/
def compactMembers : List (String × Value) → List (List Char)
  | [] => []
  | (key, value) :: rest => (quote key.toList ++ ':' :: compact value) :: compactMembers rest

end

/-- A new line at a depth of nesting. -/
def newLine (depth : Nat) : List Char :=
  '\n' :: List.replicate (2 * depth) ' '

mutual

/-- A value over several lines, at a depth of nesting. An empty container takes no lines. -/
def pretty (depth : Nat) : Value → List Char
  | .null => "null".toList
  | .bool value => if value then "true".toList else "false".toList
  | .number written => written.chars
  | .text content => quote content.toList
  | .array [] => ['[', ']']
  | .array (first :: rest) =>
    '[' :: (newLine (depth + 1) ++
      commaSeparated (newLine (depth + 1))
        (pretty (depth + 1) first :: prettyItems (depth + 1) rest)
      ++ newLine depth ++ [']'])
  | .object [] => ['{', '}']
  | .object ((key, value) :: rest) =>
    '{' :: (newLine (depth + 1) ++
      commaSeparated (newLine (depth + 1))
        ((quote key.toList ++ ':' :: ' ' :: pretty (depth + 1) value) ::
          prettyMembers (depth + 1) rest)
      ++ newLine depth ++ ['}'])

/-- The items of an array over several lines. -/
def prettyItems (depth : Nat) : List Value → List (List Char)
  | [] => []
  | item :: rest => pretty depth item :: prettyItems depth rest

/-- The members of an object over several lines. -/
def prettyMembers (depth : Nat) : List (String × Value) → List (List Char)
  | [] => []
  | (key, value) :: rest =>
    (quote key.toList ++ ':' :: ' ' :: pretty depth value) :: prettyMembers depth rest

end

end Value

end FlowCheck.Json
