import RowFilter.Number.Natural

/-!
# Calendar dates

Dates of the Gregorian calendar, extended to all years, and their number counted from the first day
of 1970. A day number is turned back into a date by estimating the year from the mean length of a
year, which is at most one off.
-/

namespace RowFilter.Calendar

/-- A date: a year, a month from one to twelve and a day from one. -/
structure Date where
  /-- The year; the year before one is zero. -/
  year : Int
  /-- The month. -/
  month : Nat
  /-- The day of the month. -/
  day : Nat
  deriving DecidableEq, Repr

/-- Whether a year has a leap day. -/
def isLeapYear (year : Int) : Bool := year % 4 == 0 && (year % 100 != 0 || year % 400 == 0)

/-- The lengths of the months of a year. -/
def monthLengths (year : Int) : List Nat :=
  [31, if isLeapYear year then 29 else 28, 31, 30, 31, 30, 31, 31, 30, 31, 30, 31]

/-- The days from the first day of year one to the first day of a year. -/
def daysBeforeYear (year : Int) : Int :=
  365 * (year - 1) + (year - 1) / 4 - (year - 1) / 100 + (year - 1) / 400

/-- The days from the first day of year one to the first day of 1970. -/
def daysBeforeEpoch : Int := 719162

/-- The earliest year in use. -/
def earliestYear : Int := -262143

/-- The latest year in use. -/
def latestYear : Int := 262142

namespace Date

/-- Whether the date exists and its year is in use. -/
def isValid (date : Date) : Bool :=
  earliestYear ≤ date.year && date.year ≤ latestYear && 1 ≤ date.month && 1 ≤ date.day &&
    (match (monthLengths date.year)[date.month - 1]? with
      | some length => date.day ≤ length
      | none => false)

/-- The number of a date, zero for the first day of 1970. -/
def dayNumber (date : Date) : Int :=
  daysBeforeYear date.year + Number.total ((monthLengths date.year).take (date.month - 1)) +
    (date.day - 1 : Nat)
    - daysBeforeEpoch

end Date

/-- The year that holds the day so many days after the first day of year one. -/
def yearOfDays (days : Int) : Int :=
  let estimate := 400 * days / 146097 + 1
  if days < daysBeforeYear estimate then estimate - 1
  else if daysBeforeYear (estimate + 1) ≤ days then estimate + 1
  else estimate

/-- The month and day of a day counted from the start of a month, given the lengths of this month
and those after it. -/
def monthAndDay (month day : Nat) : List Nat → Nat × Nat
  | [] => (month, day + 1)
  | length :: rest =>
    if day < length then (month, day + 1) else monthAndDay (month + 1) (day - length) rest

/-- The date of a day number. -/
def dateOfDayNumber (number : Int) : Date :=
  let days := number + daysBeforeEpoch
  let year := yearOfDays days
  let (month, day) := monthAndDay 1 (days - daysBeforeYear year).toNat (monthLengths year)
  ⟨year, month, day⟩

end RowFilter.Calendar
