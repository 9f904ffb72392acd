/-!
# Dates and instants

Dates of the Gregorian calendar, carried back to the year 0, and instants counted in seconds
from the start of 1970 in UTC.
-/
namespace CableMap

/-- A day of a year and a month, which need not exist. -/
structure Date where
  /-- The year. -/
  year : Nat
  /-- The month, from 1. -/
  month : Nat
  /-- The day, from 1. -/
  day : Nat
  deriving DecidableEq

namespace Date

/-- Every fourth year is a leap year, but of the full centuries only every fourth. -/
def isLeap (year : Nat) : Bool := year % 4 = 0 && (year % 100 ≠ 0 || year % 400 = 0)

/-- The lengths of the months of a year. -/
def monthLengths (year : Nat) : List Nat :=
  [31, if isLeap year then 29 else 28, 31, 30, 31, 30, 31, 31, 30, 31, 30, 31]

/-- The calendar has the date. -/
def isValid (date : Date) : Bool :=
  1 ≤ date.month && 1 ≤ date.day &&
    date.day ≤ ((monthLengths date.year)[date.month - 1]?).getD 0

/-- The days from the start of the year 0 to the start of a year. -/
def daysBeforeYear (year : Nat) : Nat :=
  365 * year + (year + 3) / 4 + (year + 399) / 400 - (year + 99) / 100

/-- The days from the start of a year to the start of a month of it. -/
def daysBeforeMonth (year month : Nat) : Nat :=
  ((monthLengths year).take (month - 1)).foldl (· + ·) 0

/-- The days from the start of 1970 to a date. -/
def dayNumber (date : Date) : Int :=
  (daysBeforeYear date.year + daysBeforeMonth date.year date.month + date.day - 1 : Int) -
    daysBeforeYear 1970

end Date

/-- An instant in UTC. -/
structure Instant where
  /-- The seconds from the start of 1970. -/
  seconds : Int
  /-- The nanoseconds in the second; a leap second counts on past the last second of its
  minute. -/
  nanoseconds : Nat
  deriving DecidableEq

end CableMap
