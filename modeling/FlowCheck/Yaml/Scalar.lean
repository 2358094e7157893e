import FlowCheck.Yaml.Value
import FlowCheck.Yaml.Character

/-!
# The meaning of plain scalars

A plain scalar is null, a truth value, an integer or a float if it is spelled like one; everything
else is text. Integers have 64 bits; those that need more, up to 128 bits, are refused, and larger
ones are floats.
-/

namespace FlowCheck.Yaml

/-- Whether a text is a spelling of null other than the empty one. -/
def isNullText (text : List Char) : Bool :=
  ["null", "Null", "NULL", "~"].any fun name => name.toList = text

/-- The truth value that a text spells. -/
def boolOf? (text : List Char) : Option Bool :=
  if ["true", "True", "TRUE"].any fun name => name.toList = text then some true
  else if ["false", "False", "FALSE"].any fun name => name.toList = text then some false
  else none

/-- A digit's value in a base up to sixteen. -/
def digitOf? (base : Nat) (c : Char) : Option Nat :=
  (hexValue? c).filter fun digit => digit < base

/-- The number that digits write in a base; at least one is needed. -/
def natOf? (base : Nat) (digits : List Char) : Option Nat :=
  if digits.isEmpty then none
  else digits.foldlM (fun value c => (digitOf? base c).map fun digit => base * value + digit) 0

/-- Whether a text is a zero and more digits, after a sign or none: that is no number. -/
def isPaddedNumber (text : List Char) : Bool :=
  let digits := match text with
    | c :: rest => if c = '-' || c = '+' then rest else text
    | [] => []
  digits.length > 1 && digits.head? = some '0' && digits.all fun c => '0' ≤ c && c ≤ '9'

/-- Whether a text begins with a sign. -/
def isSigned (text : List Char) : Bool :=
  text.head?.any fun c => c = '-' || c = '+'

/-- A text without a plus sign in front. -/
def withoutPlus : List Char → List Char
  | '+' :: rest => rest
  | text => text

/-- The base that a text names in front of its digits. -/
def namedBase? : List Char → Option (Nat × List Char)
  | '0' :: 'x' :: rest => some (16, rest)
  | '0' :: 'o' :: rest => some (8, rest)
  | '0' :: 'b' :: rest => some (2, rest)
  | _ => none

/-- The magnitude of an integer without a sign: digits in a named base, or decimal ones that are
not padded. -/
def magnitudeOf? (text : List Char) : Option Nat :=
  match namedBase? text with
  | some (base, digits) => natOf? base digits
  | none => if isPaddedNumber text then none else natOf? 10 text

/-- The integer that a text spells, whatever its size. -/
def integerOf? (text : List Char) : Option Int :=
  match text with
  | '-' :: rest => (magnitudeOf? rest).map fun magnitude => -(magnitude : Int)
  | _ => (magnitudeOf? (withoutPlus text)).map fun magnitude => (magnitude : Int)

/-- A decimal number: digits before and after a point, and an exponent. -/
structure DecimalText where
  negative : Bool
  /-- The digits on both sides of the point. -/
  digits : Nat
  /-- The power of ten that they are multiplied by. -/
  exponent : Int
  deriving Repr, DecidableEq

/-- The number that decimal digits write; none write zero. -/
def decimalOf (digits : List Char) : Nat :=
  digits.foldl (fun value c => 10 * value + (c.toNat - 48)) 0

/-- The digits of an exponent. Once their number exceeds every exponent that matters, further digits
are passed over. -/
def exponentDigits? (digits : List Char) : Option Nat :=
  if digits.isEmpty then none
  else digits.foldlM (fun value c =>
    (digitOf? 10 c).map fun digit => if value < 0x10000 then 10 * value + digit else value) 0

/-- The exponent at the end of a decimal number, after its letter. -/
def exponentOf? (text : List Char) : Option Int :=
  match text with
  | '-' :: rest => (exponentDigits? rest).map fun value => -(value : Int)
  | _ => (exponentDigits? (withoutPlus text)).map fun value => (value : Int)

/-- The decimal number that a text spells, its sign included. -/
def decimalText? (text : List Char) : Option DecimalText := do
  let isDigit := fun c : Char => '0' ≤ c && c ≤ '9'
  let negative := text.head? = some '-'
  let text := if isSigned text then text.drop 1 else text
  let whole := text.takeWhile isDigit
  let rest := text.drop whole.length
  let (fraction, rest) := match rest with
    | '.' :: rest => (rest.takeWhile isDigit, rest.dropWhile isDigit)
    | _ => ([], rest)
  if whole.isEmpty && fraction.isEmpty then none
  let exponent ← match rest with
    | [] => some 0
    | c :: rest => if c = 'e' || c = 'E' then exponentOf? rest else none
  return ⟨negative, decimalOf (whole ++ fraction), exponent - fraction.length⟩

/-- The float that a text spells. A decimal number that is too large for one is none. -/
def floatOf? (text : List Char) : Option Binary64 :=
  let unsigned := withoutPlus text
  if [".inf", ".Inf", ".INF"].any fun name => name.toList = unsigned then some (.infinite false)
  else if ["-.inf", "-.Inf", "-.INF"].any fun name => name.toList = text then some (.infinite true)
  else if [".nan", ".NaN", ".NAN"].any fun name => name.toList = text then some .nan
  else if text.head? = some '+' && isSigned unsigned then none
  else do
    let decimal ← decimalText? unsigned
    match Binary64.ofDecimal decimal.negative decimal.digits decimal.exponent with
    | .finite negative mantissa exponent => some (.finite negative mantissa exponent)
    | _ => none

/-- What an integer is as a value: one of 64 bits is itself, and one of up to 128 is refused. -/
inductive IntegerFit where
  | fits (value : Int)
  | refused
  | tooLarge
  deriving Repr, DecidableEq

/-- How an integer fits. -/
def integerFit (value : Int) : IntegerFit :=
  if -0x8000000000000000 ≤ value ∧ value < 0x10000000000000000 then .fits value
  else if -0x80000000000000000000000000000000 ≤ value ∧
      value < 0x100000000000000000000000000000000 then .refused
  else .tooLarge

/-- The integer value that a text spells. The inner value is missing when the integer is
refused. -/
def integerValue? (text : List Char) : Option (Option Value) :=
  match (integerOf? text).map integerFit with
  | some (.fits value) => some (some (.integer value))
  | some .refused => some none
  | some .tooLarge | none => none

/-- The value of a plain scalar, unless it is refused. -/
def plainValue? (text : List Char) : Option Value :=
  if text.isEmpty || isNullText text then some .null
  else match boolOf? text with
    | some value => some (.bool value)
    | none =>
      match integerValue? text with
      | some value => value
      | none =>
        if isPaddedNumber text then some (.text (String.ofList text))
        else match floatOf? text with
          | some value => some (.float value)
          | none => some (.text (String.ofList text))

end FlowCheck.Yaml
