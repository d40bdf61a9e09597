/-!
Days of the Gregorian calendar.

A day is counted from 1 January of the year 0, backwards too, and `Date.ofDays` and `Date.toDays` are
the two directions between that count and year, month and day.
-/
namespace PresenceGateway

structure Date where
  year : Int
  month : Nat
  day : Nat
deriving DecidableEq

namespace Date

def isLeap (year : Int) : Bool :=
  year % 4 == 0 && (year % 100 != 0 || year % 400 == 0)

def daysBefore (year : Int) : Int :=
  365 * year + (year + 3) / 4 - (year + 99) / 100 + (year + 399) / 400

def monthLengths (leap : Bool) : List Nat :=
  [31, if leap then 29 else 28, 31, 30, 31, 30, 31, 31, 30, 31, 30, 31]

/-- The year of a day: the estimate by the mean length of a year, or one of its neighbours. -/
def yearOf (days : Int) : Int :=
  let guess := days * 400 / 146097
  if daysBefore (guess + 1) ≤ days then guess + 1
  else if days < daysBefore guess then guess - 1
  else guess

/-- The month and the day of the month at which a number of days ends, where the months from
`month` on have the given lengths. -/
def placeIn (month days : Nat) : List Nat → Nat × Nat
  | [] => (month, days + 1)
  | length :: rest =>
    if days < length then (month, days + 1) else placeIn (month + 1) (days - length) rest

def ofDays (days : Int) : Date :=
  let year := yearOf days
  let (month, day) := placeIn 1 (days - daysBefore year).toNat (monthLengths (isLeap year))
  { year, month, day }

def isValid (date : Date) : Bool :=
  match (monthLengths (isLeap date.year))[date.month - 1]? with
  | some length => 1 ≤ date.month && 1 ≤ date.day && date.day ≤ length
  | none => false

def daysBeforeMonth (date : Date) : Nat :=
  ((monthLengths (isLeap date.year)).take (date.month - 1)).foldl Nat.add 0

def toDays (date : Date) : Int :=
  daysBefore date.year + date.daysBeforeMonth + date.day - 1

end Date

end PresenceGateway
