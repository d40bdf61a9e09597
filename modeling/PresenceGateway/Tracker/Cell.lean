import PresenceGateway.Decimal.Significant
/-!
Values in the columns of the device table.

A column of texts keeps an integer as its digits. A column of integers keeps a text that is a numeral
as the number it denotes, as an integer when it is one of 64 bits, and any other text as it is.
-/
namespace PresenceGateway.Tracker

/-- A value in a column. A number that is no integer stands as its text. -/
inductive Cell where
  | text (value : String)
  | integer (value : Int)
deriving DecidableEq

namespace Cell

def shown : Cell → String
  | text value => value
  | integer value => toString value

def isBlank (c : Char) : Bool :=
  c == ' ' || (0x09 ≤ c.toNat && c.toNat ≤ 0x0D)

def trim (cs : List Char) : List Char :=
  ((cs.dropWhile isBlank).reverse.dropWhile isBlank).reverse

def fits (value : Int) : Bool :=
  -0x8000000000000000 ≤ value && value < 0x8000000000000000

/-- A number that is written with a point or an exponent, or does not fit. It is an integer when it is
whole and between the bounds of 64 bits, and else has 15 digits. -/
def ofNumber (negative : Bool) : Option Binary64 → Cell
  | none => text (if negative then "-Inf" else "Inf")
  | some x =>
    if x.magnitude % Power.two 1074 = 0 ∧ x.truncated < 0x8000000000000000 then
      integer (if negative then -(x.truncated : Int) else x.truncated)
    else text (String.ofList (x.textWithDigits 15))

def ofNumeral? (cs : List Char) : Option Cell :=
  (Numeral.read? cs).map fun numeral =>
    let size : Int := numeral.coefficient
    let value := if numeral.negative then -size else size
    if numeral.isPlain && !cs.contains '.' && fits value then integer value
    else ofNumber numeral.negative (Binary64.ofNumeral? numeral)

def asInteger : Cell → Cell
  | integer value => integer value
  | text value => (ofNumeral? (trim value.toList)).getD (text value)

end Cell

end PresenceGateway.Tracker
