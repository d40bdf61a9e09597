import PresenceGateway.Decimal.Binary64
/-!
The shortest decimal text of a binary64 number.

`shortest` gives the fewest digits that read back as the number, and of those the nearest to it. The
two layouts differ in where they stop writing the number positionally: `DoubleStyle.plain` never
does, `DoubleStyle.compact` leaves positional notation below `10 ^ (-5)` and from `10 ^ 16` on.
-/
namespace PresenceGateway

structure Decimal where
  coefficient : Nat
  scale : Int
deriving DecidableEq, Repr

namespace Decimal

def digits (n : Nat) : List Char :=
  Nat.toDigits 10 n

/-- The decimal without trailing zeros in its coefficient, given an upper bound of their number. -/
def strip : Nat → Decimal → Decimal
  | 0, d => d
  | bound + 1, d =>
    if d.coefficient % 10 = 0 ∧ d.coefficient ≠ 0 then
      strip bound ⟨d.coefficient / 10, d.scale + 1⟩
    else d

/-- Whether `coefficient * 10 ^ scale` is at most `bound / 2 ^ 1076`, or below it when `strict`. -/
def atMost (strict : Bool) (d : Decimal) (bound : Nat) : Bool :=
  let left := d.coefficient * Power.two 1076 * Power.ten d.scale.toNat
  let right := bound * Power.ten (-d.scale).toNat
  if strict then left < right else left ≤ right

/-- Whether `bound / 2 ^ 1076` is at most `coefficient * 10 ^ scale`, or below it when `strict`. -/
def atLeast (strict : Bool) (d : Decimal) (bound : Nat) : Bool :=
  let left := d.coefficient * Power.two 1076 * Power.ten d.scale.toNat
  let right := bound * Power.ten (-d.scale).toNat
  if strict then right < left else right ≤ left

end Decimal

namespace Binary64

/-- The values that round to a number, in quarters of `2 ^ (-1074)`: the value itself, the bounds,
and whether the bounds belong to them. -/
structure Cell where
  centre : Nat
  low : Nat
  high : Nat
  closed : Bool

def cell (x : Binary64) : Cell :=
  let step := Power.two x.unit
  { centre := 4 * x.magnitude
    low := 4 * x.magnitude - (if x.significand = 0x10000000000000 ∧ x.unit ≠ 0 then step else 2 * step)
    high := 4 * x.magnitude + 2 * step
    closed := x.significand % 2 == 0 }

def Cell.holds (cell : Cell) (d : Decimal) : Bool :=
  d.atLeast (!cell.closed) cell.low && d.atMost (!cell.closed) cell.high

def leadingExponent (x : Binary64) : Int :=
  (Decimal.digits (x.magnitude * Power.ten 330 / Power.two 1074)).length - 331

/-- The decimal with one digit more or less below the number: the largest multiple of
`10 ^ scale` that does not exceed it. -/
def below (x : Binary64) (scale : Int) : Decimal :=
  ⟨x.magnitude * Power.ten (-scale).toNat / (Power.two 1074 * Power.ten scale.toNat), scale⟩

/-- Of the two neighbours on the grid of `10 ^ scale`, the one to write: one that rounds to the
number, the nearer when both do, and the even one when they are equally near. -/
def onGrid (x : Binary64) (scale : Int) : Option Decimal :=
  let cell := x.cell
  let lower := x.below scale
  let upper : Decimal := ⟨lower.coefficient + 1, scale⟩
  match cell.holds lower && lower.coefficient ≠ 0, cell.holds upper with
  | true, false => some lower
  | false, true => some upper
  | false, false => none
  | true, true =>
    let middle : Decimal := ⟨10 * lower.coefficient + 5, scale - 1⟩
    if middle.atLeast true cell.centre then some lower
    else if middle.atMost true cell.centre then some upper
    else if lower.coefficient % 2 = 0 then some lower else some upper

/-- The first grid, from coarse to fine, with a decimal that rounds to the number. -/
def search (x : Binary64) : Nat → Int → Decimal
  | 0, scale => x.below scale
  | tries + 1, scale =>
    match x.onGrid scale with
    | some d => d
    | none => x.search tries (scale - 1)

def shortest (x : Binary64) : Decimal :=
  (x.search 20 x.leadingExponent).strip 20

end Binary64

/-- How the digits of a number are laid out: positionally when the exponent of the leading digit
lies between the two bounds, and always when there are none. -/
structure DoubleStyle where
  positional : Option (Int × Int)

def DoubleStyle.plain : DoubleStyle := ⟨none⟩

/-- Positional from `10 ^ (-5)` up to, but not including, `10 ^ 16`. -/
def DoubleStyle.compact : DoubleStyle := ⟨some (-5, 15)⟩

namespace DoubleStyle

private def zeros (n : Nat) : List Char := List.replicate n '0'

/-- Digits with a point after `position` of them, and a zero where one side would be empty. -/
def positionalText (digits : List Char) (position : Int) : List Char :=
  if position ≤ 0 then ['0', '.'] ++ zeros (-position).toNat ++ digits
  else
    let count := position.toNat
    if digits.length ≤ count then digits ++ zeros (count - digits.length) ++ ['.', '0']
    else digits.take count ++ '.' :: digits.drop count

def exponentText (digits : List Char) (exponent : Int) : List Char :=
  let mantissa := match digits with
    | [] => []
    | [d] => [d]
    | d :: more => d :: '.' :: more
  let sign := if exponent < 0 then '-' else '+'
  mantissa ++ 'e' :: sign :: Decimal.digits exponent.natAbs

def text (style : DoubleStyle) (x : Binary64) : List Char :=
  let sign := if x.negative then ['-'] else []
  if x.isZero then sign ++ ['0', '.', '0']
  else
    let d := x.shortest
    let digits := Decimal.digits d.coefficient
    let exponent := digits.length - 1 + d.scale
    let inside := match style.positional with
      | none => true
      | some (low, high) => low ≤ exponent && exponent ≤ high
    if inside then sign ++ positionalText digits (exponent + 1)
    else sign ++ exponentText digits exponent

end DoubleStyle

end PresenceGateway
