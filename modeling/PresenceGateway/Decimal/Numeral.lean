/-!
Decimal numerals as they are written, and their exact value; powers of the two bases in which numbers
are stored and written.

A numeral keeps its digits as written. Its value is the integer of all digits times a power of ten,
so that rounding is the business of the number types alone.
-/
namespace PresenceGateway

namespace Power

def two (exponent : Nat) : Nat := Nat.pow 2 exponent

def ten (exponent : Nat) : Nat := Nat.pow 10 exponent

end Power

structure Numeral where
  negative : Bool
  whole : List Nat
  fraction : List Nat
  exponent : Option Int
deriving DecidableEq, Repr

namespace Numeral

def ofDigits (digits : List Nat) : Nat :=
  digits.foldl (fun value digit => value * 10 + digit) 0

def coefficient (numeral : Numeral) : Nat :=
  ofDigits (numeral.whole ++ numeral.fraction)

def scale (numeral : Numeral) : Int :=
  numeral.exponent.getD 0 - numeral.fraction.length

def isPlain (numeral : Numeral) : Bool :=
  numeral.fraction.isEmpty && numeral.exponent.isNone

def significantDigits (numeral : Numeral) : List Nat :=
  (numeral.whole ++ numeral.fraction).dropWhile (· = 0)

def isDigit (c : Char) : Bool :=
  48 ≤ c.toNat && c.toNat ≤ 57

def digitValue (c : Char) : Nat :=
  c.toNat - 48

def takeDigits (cs : List Char) : List Nat × List Char :=
  ((cs.takeWhile isDigit).map digitValue, cs.dropWhile isDigit)

def takeNatural (cs : List Char) : Option (Nat × List Char) :=
  match takeDigits cs with
  | ([], _) => none
  | (digits, rest) => some (ofDigits digits, rest)

def natural? (bound : Nat) (text : String) : Option Nat :=
  let cs := match text.toList with
    | '+' :: rest => rest
    | cs => cs
  match takeNatural cs with
  | some (value, []) => if value < bound then some value else none
  | _ => none

def takeSign : List Char → Bool × List Char
  | '-' :: rest => (true, rest)
  | '+' :: rest => (false, rest)
  | cs => (false, cs)

def readExponent : List Char → Option (Option Int)
  | [] => some none
  | mark :: rest =>
    if mark = 'e' ∨ mark = 'E' then
      let (negative, unsigned) := takeSign rest
      match takeDigits unsigned with
      | ([], _) => none
      | (digits, []) =>
        let size : Int := ofDigits digits
        some (some (if negative then -size else size))
      | (_, _ :: _) => none
    else none

/-- Reads a numeral that may carry a sign and may leave out the digits on one side of its point:
`+5`, `5.` and `.5` are numerals, `.` is not. -/
def read? (cs : List Char) : Option Numeral :=
  let (negative, unsigned) := takeSign cs
  let (whole, afterWhole) := takeDigits unsigned
  let (fraction, rest) :=
    match afterWhole with
    | '.' :: afterPoint => takeDigits afterPoint
    | _ => ([], afterWhole)
  if whole.isEmpty && fraction.isEmpty then none
  else (readExponent rest).map fun exponent => ⟨negative, whole, fraction, exponent⟩

end Numeral

end PresenceGateway
