import PresenceGateway.Json.Tree
import PresenceGateway.Json.Value
import PresenceGateway.Text.Utf8
/-!
From written JSON to JSON values.

A value can be read from a tree when its strings are texts, its numbers fit and its arrays and
objects nest at most 127 deep. Integers of the 64-bit ranges stay integers. Every other number is
read as a binary64 number: as many leading digits as make a 64-bit integer, scaled by a power of ten
with one rounding for each step.
-/
namespace PresenceGateway.Json

/-! ### Strings -/

namespace StringUnits

/-- The UTF-8 bytes of a written string, last first, on top of those already read. A surrogate must
be the first half of a pair whose second half follows at once. -/
def bytesOnto (done : List UInt8) : StringUnits → Option (List UInt8)
  | [] => some done
  | .byte b :: rest => bytesOnto (b :: done) rest
  | [.escaped unit] =>
    if 0xD800 ≤ unit ∧ unit ≤ 0xDFFF then none
    else some ((String.utf8EncodeChar (Char.ofNat unit)).reverse ++ done)
  | .escaped high :: .byte b :: rest =>
    if 0xD800 ≤ high ∧ high ≤ 0xDFFF then none
    else bytesOnto (b :: ((String.utf8EncodeChar (Char.ofNat high)).reverse ++ done)) rest
  | .escaped high :: .escaped low :: rest =>
    if 0xD800 ≤ high ∧ high ≤ 0xDFFF then
      if high ≤ 0xDBFF ∧ 0xDC00 ≤ low ∧ low ≤ 0xDFFF then
        let c := Char.ofNat (0x10000 + (high - 0xD800) * 0x400 + (low - 0xDC00))
        bytesOnto ((String.utf8EncodeChar c).reverse ++ done) rest
      else none
    else bytesOnto ((String.utf8EncodeChar (Char.ofNat high)).reverse ++ done)
      (.escaped low :: rest)

def text? (units : StringUnits) : Option String :=
  (bytesOnto [] units).bind fun bytes => Text.Utf8.decode? bytes.reverse

end StringUnits

/-! ### Numbers -/

namespace Number

/-- The digits that make up the 64-bit integer at the front of a number, and the power of ten that
goes with it. -/
structure Leading where
  coefficient : Nat
  scale : Int

/-- One more digit of the integer part. Once a digit does not fit, each one only raises the scale. -/
def Leading.pushWhole (leading : Leading) (digit : Nat) : Leading :=
  if leading.scale = 0 ∧ leading.coefficient * 10 + digit < 0x10000000000000000 then
    ⟨leading.coefficient * 10 + digit, 0⟩
  else ⟨leading.coefficient, leading.scale + 1⟩

/-- The digits after the point, up to the first that does not fit. -/
def Leading.pushFraction (leading : Leading) : List Nat → Leading
  | [] => leading
  | digit :: rest =>
    if leading.coefficient * 10 + digit < 0x10000000000000000 then
      Leading.pushFraction ⟨leading.coefficient * 10 + digit, leading.scale - 1⟩ rest
    else leading

/-- The leading digits of a numeral and their scale, its written exponent included. -/
def leading (numeral : Numeral) : Leading :=
  let digits := (numeral.whole.foldl Leading.pushWhole ⟨0, 0⟩).pushFraction numeral.fraction
  ⟨digits.coefficient, digits.scale + numeral.exponent.getD 0⟩

def tenTo (exponent : Nat) : Option Binary64 :=
  Binary64.ofFraction? false (Power.ten exponent) 1

/-- A number divided by `10 ^ size` in steps of at most `10 ^ 308`. -/
def scaleDown : Nat → Binary64 → Nat → Option Binary64
  | 0, x, _ => some x
  | steps + 1, x, size =>
    if size ≤ 308 then (tenTo size).bind x.div?
    else if x.isZero then some x
    else ((tenTo 308).bind x.div?).bind fun smaller => scaleDown steps smaller (size - 308)

/-- The binary64 number of a numeral: its leading digits, rounded, times a power of ten, rounded.
After three steps down nothing is left of a 64-bit integer. -/
def scaled? (numeral : Numeral) : Option Binary64 :=
  let digits := leading numeral
  let magnitude := (Binary64.ofNat? digits.coefficient).bind fun x =>
    if digits.scale < 0 then scaleDown 4 x digits.scale.natAbs
    else if digits.scale ≤ 308 then (tenTo digits.scale.natAbs).bind x.mul?
    else if x.isZero then some x
    else none
  magnitude.map fun x => if numeral.negative then x.neg else x

def ofNumeral? (numeral : Numeral) : Option Number :=
  let n : Int := numeral.coefficient
  let value := if numeral.negative then -n else n
  if fits : -0x8000000000000000 ≤ value ∧ value < 0x10000000000000000 then
    if numeral.isPlain && !(numeral.negative && value == 0) then some (.integer value fits)
    else (scaled? numeral).map .double
  else (scaled? numeral).map .double

end Number

/-! ### Values -/

namespace Tree

mutual

/-- The value of a tree that may open `levels` arrays and objects inside each other. -/
def toValue? (levels : Nat) : Tree → Option Value
  | .null => some .null
  | .bool value => some (.bool value)
  | .number numeral => (Number.ofNumeral? numeral).map .number
  | .string units => units.text?.map .string
  | .array items =>
    match levels with
    | 0 => none
    | levels + 1 => (toValues? levels items).map .array
  | .object members =>
    match levels with
    | 0 => none
    | levels + 1 => (toMembers? levels members).map Value.ofPairs

def toValues? (levels : Nat) : List Tree → Option (List Value)
  | [] => some []
  | item :: rest =>
    match toValue? levels item, toValues? levels rest with
    | some value, some values => some (value :: values)
    | _, _ => none

def toMembers? (levels : Nat) : List (StringUnits × Tree) → Option (List (String × Value))
  | [] => some []
  | (key, tree) :: rest =>
    match key.text?, toValue? levels tree, toMembers? levels rest with
    | some key, some value, some members => some ((key, value) :: members)
    | _, _, _ => none

end

end Tree

/-- How many arrays and objects of a text may be open at a time. -/
def maxDepth : Nat := 127

def Value.read? (bytes : List UInt8) : Option Value :=
  (Tree.read? bytes).bind (Tree.toValue? maxDepth)

def Value.ofText? (text : String) : Option Value :=
  Value.read? (Text.Utf8.encode text)

end PresenceGateway.Json
