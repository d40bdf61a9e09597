import PresenceGateway.Decimal.Shortest
/-!
Binary64 numbers with a fixed count of significant digits.

The digits are those of the exact value, rounded half up. Zeros at their end are left out, and so is
nothing else: a number always has a point and a digit behind it.
-/
namespace PresenceGateway

namespace Binary64

def significant (x : Binary64) (count : Nat) : Decimal :=
  let finer := x.below (x.leadingExponent - count)
  Decimal.strip (count + 1) ⟨(finer.coefficient + 5) / 10, finer.scale + 1⟩

def scientific (digits : List Char) (exponent : Int) : List Char :=
  let size := Decimal.digits exponent.natAbs
  DoubleStyle.positionalText digits 1 ++ 'e' :: (if exponent < 0 then '-' else '+')
    :: (List.replicate (2 - size.length) '0' ++ size)

/-- The text of a number with a count of significant digits: positional from `10 ^ (-4)` up to, but
not including, `10 ^ count`. -/
def textWithDigits (x : Binary64) (count : Nat) : List Char :=
  let sign := if x.negative then ['-'] else []
  if x.isZero then sign ++ ['0', '.', '0']
  else
    let d := x.significant count
    let digits := Decimal.digits d.coefficient
    let exponent := digits.length - 1 + d.scale
    if -4 ≤ exponent ∧ exponent < count then
      sign ++ DoubleStyle.positionalText digits (exponent + 1)
    else sign ++ scientific digits exponent

end Binary64

end PresenceGateway
