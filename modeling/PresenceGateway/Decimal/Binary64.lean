import PresenceGateway.Decimal.Numeral
/-!
Finite binary64 numbers, with exact integer arithmetic.

A number is a sign, a significand and a unit; its magnitude is `significand * 2 ^ unit` in multiples
of the smallest positive number, `2 ^ (-1074)`. Rounding goes to the nearest number, a tie to the
even significand, and a value that is too large has no number.
-/
namespace PresenceGateway

/-- A finite binary64 number. The significand has at most 53 bits, and all of them unless the unit is
the smallest one. -/
structure Binary64 where
  negative : Bool
  significand : Nat
  unit : Nat
  significand_lt : significand < 0x20000000000000
  normal : 0x10000000000000 ≤ significand ∨ unit = 0
  unit_le : unit ≤ 2045
deriving DecidableEq

namespace Binary64

/-- The magnitude in multiples of `2 ^ (-1074)`. -/
def magnitude (x : Binary64) : Nat :=
  x.significand * Power.two x.unit

def truncated (x : Binary64) : Nat :=
  x.magnitude / Power.two 1074

def isZero (x : Binary64) : Bool :=
  x.significand == 0

def zero (negative : Bool) : Binary64 :=
  { negative, significand := 0, unit := 0
    significand_lt := by decide, normal := .inr rfl, unit_le := by decide }

def make? (negative : Bool) (significand unit : Nat) : Option Binary64 :=
  if fits : significand < 0x20000000000000 ∧ (0x10000000000000 ≤ significand ∨ unit = 0)
      ∧ unit ≤ 2045 then
    some ⟨negative, significand, unit, fits.1, fits.2.1, fits.2.2⟩
  else none

/-- The quotient rounded to the nearest integer, a tie to the even one. -/
def nearestQuotient (dividend divisor : Nat) : Nat :=
  let quotient := dividend / divisor
  let double := 2 * (dividend % divisor)
  if double < divisor then quotient
  else if divisor < double then quotient + 1
  else if quotient % 2 = 0 then quotient else quotient + 1

/-- The number nearest to `dividend / divisor` multiples of `2 ^ (-1074)`. -/
def nearest? (negative : Bool) (dividend divisor : Nat) : Option Binary64 :=
  let unit := (dividend / divisor).log2 - 52
  let significand := nearestQuotient dividend (divisor * Power.two unit)
  if significand = 0x20000000000000 then make? negative 0x10000000000000 (unit + 1)
  else make? negative significand unit

def ofFraction? (negative : Bool) (numerator denominator : Nat) : Option Binary64 :=
  nearest? negative (Power.two 1074 * numerator) denominator

def ofNat? (n : Nat) : Option Binary64 :=
  ofFraction? false n 1

def ofScaled? (negative : Bool) (coefficient : Nat) (scale : Int) : Option Binary64 :=
  if 0 ≤ scale then ofFraction? negative (coefficient * Power.ten scale.toNat) 1
  else ofFraction? negative coefficient (Power.ten (-scale).toNat)

/-- The number nearest to a numeral's value. A value of 310 and more digits before the point is
beyond every number, and one with 330 and more zeros after the point rounds to zero. -/
def ofNumeral? (numeral : Numeral) : Option Binary64 :=
  let digits := numeral.significantDigits
  if digits.isEmpty then some (zero numeral.negative)
  else
    let size := digits.length + numeral.scale
    if 310 ≤ size then none
    else if size ≤ -330 then some (zero numeral.negative)
    else ofScaled? numeral.negative (Numeral.ofDigits digits) numeral.scale

def mul? (x y : Binary64) : Option Binary64 :=
  nearest? (x.negative != y.negative) (x.magnitude * y.magnitude) (Power.two 1074)

def div? (x y : Binary64) : Option Binary64 :=
  if y.isZero then none
  else nearest? (x.negative != y.negative) (Power.two 1074 * x.magnitude) y.magnitude

def neg (x : Binary64) : Binary64 :=
  { x with negative := !x.negative }

end Binary64

end PresenceGateway
