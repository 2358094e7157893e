import FlowCheck.Json.Tree
import FlowCheck.Decimal.Binary64

/-!
# Numbers of a JSON text

A numeral without fraction and exponent is an integer when a signed or an unsigned 64-bit number
holds it; every other numeral, and `-0`, is a double. A double that would be infinite is refused. It
is computed from the leading digits that an unsigned 64-bit number holds, times a power of ten that
is itself rounded to a double.
-/

namespace FlowCheck.Json

/-- The value of a number that was checked. -/
inductive Number where
  | integer (value : Int)
  | real (numeral : Numeral)
  deriving Repr, DecidableEq

/-- Append decimal digits to a number while it stays below `2 ^ 64`, and give back the digits that
no longer fit. -/
def leadingDigits (significand : Nat) : List Char → Nat × List Char
  | [] => (significand, [])
  | c :: rest =>
    let next := 10 * significand + (c.toNat - 48)
    if next < 0x10000000000000000 then leadingDigits next rest else (significand, c :: rest)

/-- The number that a list of decimal digits writes. -/
def digitsValue (digits : List Char) : Nat :=
  digits.foldl (fun value c => 10 * value + (c.toNat - 48)) 0

/-- Whether `significand · 10 ^ exponent` is computed as an infinite double. -/
def tooLarge (significand : Nat) (exponent : Int) : Bool :=
  if exponent < 0 then false
  else if exponent > 308 then decide (significand ≠ 0)
  else Binary64.overflows
    (Binary64.roundNat significand * Binary64.roundNat (Nat.pow 10 exponent.toNat))

namespace Numeral

/-- The digits that count and the power of ten that they are multiplied by, as far as whole part and
fraction go. -/
def scaled (numeral : Numeral) : Nat × Int :=
  let (significand, droppedWhole) := leadingDigits 0 numeral.whole
  let (significand, droppedFraction) := leadingDigits significand numeral.fraction
  let shift : Int := droppedWhole.length - (numeral.fraction.length - droppedFraction.length : Nat)
  (significand, shift)

/-- Whether the double that a numeral writes is infinite. An exponent beyond `2 ^ 31` is not even
added up. -/
def isTooLarge (numeral : Numeral) : Bool :=
  let (significand, shift) := numeral.scaled
  match numeral.exponent with
  | none => tooLarge significand shift
  | some (negative, digits) =>
    let exponent := digitsValue digits
    if exponent ≥ 0x80000000 then !negative && decide (significand ≠ 0)
    else tooLarge significand (if negative then shift - exponent else shift + exponent)

/-- The number that a numeral writes, unless it is out of range. -/
def number? (numeral : Numeral) : Option Number :=
  let value := digitsValue numeral.whole
  let isInteger := numeral.fraction.isEmpty && numeral.exponent.isNone &&
    (if numeral.negative then decide (value ≠ 0 ∧ value ≤ 0x8000000000000000)
      else decide (value < 0x10000000000000000))
  if isInteger then some (.integer (if numeral.negative then -value else value))
  else if numeral.isTooLarge then none
  else some (.real numeral)

end Numeral

end FlowCheck.Json
