import FlowCheck.Decimal.Binary64

/-!
# The shortest decimal of a double

The text of a double has the fewest significant digits that read back as the same double, and of
those the digits nearest to it. Candidates of one, two, up to seventeen digits are tried in exact
arithmetic: on each decimal grid only the two points around the number can read back.
-/

namespace FlowCheck

/-- A positive decimal `0.d₁d₂… · 10 ^ point`. -/
structure DecimalDigits where
  digits : List Char
  point : Int
  deriving Repr, DecidableEq

namespace Binary64

/-- The position of the decimal point of a positive quotient: the least `p` with
`numerator / denominator < 10 ^ p`. -/
def decimalPoint (numerator denominator : Nat) : Int :=
  let estimate : Int := (((numerator.log2 : Int) - denominator.log2) * 30103).fdiv 100000 - 1
  let below (p : Int) : Bool :=
    if p < 0 then decide (numerator * Nat.pow 10 (-p).toNat < denominator)
    else decide (numerator < denominator * Nat.pow 10 p.toNat)
  match ([0, 1, 2, 3] : List Int).find? fun step => below (estimate + step) with
  | some step => estimate + step
  | none => estimate + 4

/-- The nearest point to `mantissa · 2 ^ exponent` on the grid of `count` significant digits, if it
reads back. Bounds and points are compared in quarters of the last mantissa bit. -/
def gridPoint? (mantissa : Nat) (exponent : Int) (point : Int) (count : Nat) : Option Nat :=
  let quarter := exponent - 2
  let grid := point - count
  let top := (if quarter < 0 then 1 else Nat.pow 2 quarter.toNat) *
    (if grid < 0 then Nat.pow 10 (-grid).toNat else 1)
  let bottom := (if quarter < 0 then Nat.pow 2 (-quarter).toNat else 1) *
    (if grid < 0 then 1 else Nat.pow 10 grid.toNat)
  let value := 4 * mantissa * top
  let low := (4 * mantissa -
    (if mantissa = Nat.pow 2 (mantissaBits - 1) ∧ exponent > leastExponent then 1 else 2)) * top
  let high := (4 * mantissa + 2) * top
  let inside (candidate : Nat) : Bool :=
    let place := candidate * bottom
    if mantissa % 2 = 0 then decide (low ≤ place ∧ place ≤ high)
    else decide (low < place ∧ place < high)
  let lower := value / bottom
  let upper := lower + 1
  let lowerFirst := decide (value - lower * bottom ≤ upper * bottom - value)
  let (near, far) := if lowerFirst then (lower, upper) else (upper, lower)
  if inside near then some near else if inside far then some far else none

/-- The shortest digits that read back as a positive finite double. -/
def shortestDigits (mantissa : Nat) (exponent : Int) : DecimalDigits :=
  let numerator := if exponent < 0 then mantissa else mantissa * Nat.pow 2 exponent.toNat
  let denominator := if exponent < 0 then Nat.pow 2 (-exponent).toNat else 1
  let point := decimalPoint numerator denominator
  let tries : List (Nat × Option Nat) :=
    (List.range 17).map fun n => (n + 1, gridPoint? mantissa exponent point (n + 1))
  match tries.find? fun (_, candidate) => candidate.isSome with
  | some (count, some candidate) =>
    let digits := Nat.toDigits 10 candidate
    let carried : Int := digits.length - count
    ⟨(digits.reverse.dropWhile (· = '0')).reverse, point + carried⟩
  | _ => ⟨Nat.toDigits 10 numerator, point⟩

/-- The written form: positional between `10 ^ -4` and `10 ^ 16`, with at least one decimal, and
otherwise with an exponent. -/
def text : Binary64 → String
  | .nan => "NaN"
  | .infinite negative => if negative then "-inf" else "inf"
  | .finite negative mantissa exponent =>
    let sign := if negative then "-" else ""
    if mantissa = 0 then sign ++ "0.0"
    else
      let ⟨digits, point⟩ := shortestDigits mantissa exponent
      let whole := String.ofList (digits.take point.toNat) ++
        String.ofList (List.replicate (point.toNat - digits.length) '0')
      let fraction := String.ofList (List.replicate (-point).toNat '0') ++
        String.ofList (digits.drop point.toNat)
      if point ≤ -4 ∨ point > 16 then
        let tail := String.ofList (digits.drop 1)
        sign ++ String.ofList (digits.take 1) ++ (if tail.isEmpty then "" else "." ++ tail) ++
          "e" ++ toString (point - 1)
      else
        sign ++ (if point ≤ 0 then "0" else whole) ++ "." ++
          (if fraction.isEmpty then "0" else fraction)

end Binary64

end FlowCheck
