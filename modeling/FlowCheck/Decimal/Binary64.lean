/-!
# Double-precision numbers

Doubles are kept as exact integers: a finite one is `mantissa · 2 ^ exponent`. Reading a decimal
rounds it to the nearest double, a tie going to the even mantissa.
-/

namespace FlowCheck

/-- A quotient rounded to the nearest natural number, a tie going to the even one. -/
def roundDiv (numerator denominator : Nat) : Nat :=
  let quotient := numerator / denominator
  let twice := 2 * (numerator % denominator)
  if twice < denominator then quotient
  else if twice > denominator then quotient + 1
  else quotient + quotient % 2

/-- A double-precision number. The mantissa of a finite one is below `2 ^ 53`, its exponent at least
`-1074`, and the mantissa is at least `2 ^ 52` unless the exponent is the least one. -/
inductive Binary64 where
  | finite (negative : Bool) (mantissa : Nat) (exponent : Int)
  | infinite (negative : Bool)
  | nan
  deriving Repr, DecidableEq

namespace Binary64

/-- The bits of a full mantissa. -/
def mantissaBits : Nat := 53

/-- The exponent of the smallest doubles. -/
def leastExponent : Int := -1074

/-- The exponent of the largest doubles. -/
def greatestExponent : Int := 971

/-- The double nearest to a positive quotient. -/
def ofRatio (negative : Bool) (numerator denominator : Nat) : Binary64 :=
  if numerator = 0 then .finite negative 0 leastExponent
  else
    let magnitude : Int := (numerator.log2 : Int) - denominator.log2
    let scaled (exponent : Int) : Nat × Nat :=
      if exponent < 0 then (numerator * Nat.pow 2 (-exponent).toNat, denominator)
      else (numerator, denominator * Nat.pow 2 exponent.toNat)
    let guess := magnitude - (mantissaBits - 1)
    let (top, bottom) := scaled guess
    let full := if top < bottom * Nat.pow 2 (mantissaBits - 1) then guess - 1 else guess
    let exponent := max leastExponent full
    let (top, bottom) := scaled exponent
    let mantissa := roundDiv top bottom
    let (mantissa, exponent) :=
      if mantissa = Nat.pow 2 mantissaBits then (Nat.pow 2 (mantissaBits - 1), exponent + 1)
      else (mantissa, exponent)
    if exponent > greatestExponent then .infinite negative
    else .finite negative mantissa exponent

/-- How many decimal digits a number has; zero has none. -/
def digitCount (n : Nat) : Nat :=
  if n = 0 then 0 else (Nat.toDigits 10 n).length

/-- The double nearest to `digits · 10 ^ exponent`. Far beyond the largest double the answer is
infinite and far below the smallest it is zero, so no great power is ever computed. -/
def ofDecimal (negative : Bool) (digits : Nat) (exponent : Int) : Binary64 :=
  let size : Int := digitCount digits + exponent
  if digits = 0 ∨ size < -330 then .finite negative 0 leastExponent
  else if size > 310 then .infinite negative
  else if exponent < 0 then ofRatio negative digits (Nat.pow 10 (-exponent).toNat)
  else ofRatio negative (digits * Nat.pow 10 exponent.toNat) 1

/-- Whether two doubles compare as equal numbers: the two zeros do, and here a NaN equals itself. -/
def equal : Binary64 → Binary64 → Bool
  | .nan, .nan => true
  | .infinite a, .infinite b => a == b
  | .finite a m e, .finite b n f => m == n && (m == 0 || (a == b && e == f))
  | _, _ => false

/-- A natural number rounded to 53 significant bits. -/
def roundNat (n : Nat) : Nat :=
  match ofRatio false n 1 with
  | .finite _ mantissa exponent =>
    if exponent < 0 then mantissa / Nat.pow 2 (-exponent).toNat
    else mantissa * Nat.pow 2 exponent.toNat
  | _ => 0

/-- Whether an exact number is so large that its nearest double is infinite. -/
def overflows (n : Nat) : Bool :=
  decide ((Nat.pow 2 54 - 1) * Nat.pow 2 970 ≤ n)

end Binary64

end FlowCheck
