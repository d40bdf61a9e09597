import PresenceGateway.Time.Date
import PresenceGateway.Decimal.Numeral
/-!
Instants and their text.

An instant is written in UTC with milliseconds, such as `1970-01-01T00:00:00.001Z`, and what is
smaller than a millisecond is dropped. Years of more than four digits and years before 0 are written
with a sign. What is read may have any number of digits after the seconds and any offset, but its year
has four digits.
-/
namespace PresenceGateway

structure Instant where
  nanoseconds : Int
deriving DecidableEq

namespace Instant

def ofMicroseconds (n : Int) : Instant := { nanoseconds := n * 1000 }

/-- The instant of a number of microseconds in the years from -262143 to 262142. -/
def ofMicroseconds? (n : Int) : Option Instant :=
  if -8334601228800000000 ≤ n ∧ n ≤ 8210266876799999999 then some (ofMicroseconds n) else none

def milliseconds (instant : Instant) : Int :=
  instant.nanoseconds / 1000000

def epochDay : Int := 719528

def dayLength : Int := 86400000

/-! ### Writing -/

def padded (width n : Nat) : List Char :=
  let digits := Nat.toDigits 10 n
  List.replicate (width - digits.length) '0' ++ digits

def yearChars (year : Int) : List Char :=
  if 0 ≤ year ∧ year ≤ 9999 then padded 4 year.natAbs
  else (if year < 0 then '-' else '+') :: padded 4 year.natAbs

def dateChars (date : Date) : List Char :=
  yearChars date.year ++ '-' :: padded 2 date.month ++ '-' :: padded 2 date.day

def timeChars (time : Nat) : List Char :=
  padded 2 (time / 3600000) ++ ':' :: padded 2 (time / 60000 % 60) ++
    ':' :: padded 2 (time / 1000 % 60) ++ '.' :: padded 3 (time % 1000)

def text (instant : Instant) : String :=
  let ms := instant.milliseconds
  String.ofList (dateChars (Date.ofDays (ms / dayLength + epochDay)) ++
    'T' :: timeChars (ms % dayLength).toNat ++ ['Z'])

/-! ### Reading -/

def takeNumber (width : Nat) (cs : List Char) : Option (Nat × List Char) :=
  let digits := cs.take width
  if digits.length = width ∧ digits.all Numeral.isDigit then
    some (Numeral.ofDigits (digits.map Numeral.digitValue), cs.drop width)
  else none

def takeChar (c : Char) : List Char → Option (List Char)
  | d :: rest => if d = c then some rest else none
  | [] => none

/-- The fraction of a second in nanoseconds: nothing, or a point and at least one digit. Digits after
the ninth do not count. -/
def takeFraction : List Char → Option (Nat × List Char)
  | '.' :: rest =>
    match Numeral.takeDigits rest with
    | ([], _) => none
    | (digits, later) =>
      let nine := digits.take 9
      some (Numeral.ofDigits nine * Power.ten (9 - nine.length), later)
  | cs => some (0, cs)

def readOffset : List Char → Option Int
  | [] => none
  | sign :: rest =>
    if sign = 'Z' ∨ sign = 'z' then if rest.isEmpty then some 0 else none
    else if sign = '+' ∨ sign = '-' ∨ sign = Char.ofNat 0x2212 then do
      let (hours, rest) ← takeNumber 2 rest
      let rest ← takeChar ':' rest
      let (minutes, rest) ← takeNumber 2 rest
      if rest.isEmpty ∧ hours ≤ 23 ∧ minutes ≤ 59 then
        let size : Int := hours * 60 + minutes
        some (if sign = '+' then size else -size)
      else none
    else none

def takeSeparator : List Char → Option (List Char)
  | c :: rest => if c = 'T' ∨ c = 't' ∨ c = ' ' then some rest else none
  | [] => none

/-- Reads the text of an instant. A minute may have a sixty-first second. -/
def parse? (text : String) : Option Instant := do
  let (year, rest) ← takeNumber 4 text.toList
  let (month, rest) ← takeNumber 2 (← takeChar '-' rest)
  let (day, rest) ← takeNumber 2 (← takeChar '-' rest)
  let (hour, rest) ← takeNumber 2 (← takeSeparator rest)
  let (minute, rest) ← takeNumber 2 (← takeChar ':' rest)
  let (second, rest) ← takeNumber 2 (← takeChar ':' rest)
  let (fraction, rest) ← takeFraction rest
  let offset ← readOffset rest
  let date : Date := { year, month, day }
  if date.isValid ∧ hour ≤ 23 ∧ minute ≤ 59 ∧ second ≤ 60 then
    let minutes : Int := (date.toDays - epochDay) * 1440 + hour * 60 + minute - offset
    some { nanoseconds := (minutes * 60 + second) * 1000000000 + fraction }
  else none

end Instant

end PresenceGateway
