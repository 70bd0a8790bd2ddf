import RowFilter.Calendar.Instant
import RowFilter.Number.Shortest

/-!
# Writing dates and times

Dates are written with a year of four digits, or with a sign and at least four digits outside the
years 0 to 9999. Instants are written to the millisecond, rounded down, with the letter for
universal time.
-/

namespace RowFilter.Calendar

open Number

/-- A number with zeros in front up to the given number of digits. -/
def padded (width n : Nat) : List Char :=
  let digits := digitChars n
  List.replicate (width - digits.length) '0' ++ digits

/-- A year. -/
def yearChars (year : Int) : List Char :=
  if 0 ≤ year && year ≤ 9999 then padded 4 year.natAbs
  else (if year < 0 then '-' else '+') :: padded 4 year.natAbs

/-- A date. -/
def Date.chars (date : Date) : List Char :=
  yearChars date.year ++ '-' :: padded 2 date.month ++ '-' :: padded 2 date.day

/-- A date as text. -/
def Date.text (date : Date) : String := String.ofList date.chars

/-- An instant to the millisecond. -/
def Instant.chars (instant : Instant) : List Char :=
  let time := instant.time
  instant.date.chars ++ 'T' :: padded 2 time.hour ++ ':' :: padded 2 time.minute ++
    ':' :: padded 2 time.second
    ++ '.' :: padded 3 (time.nanos / 1000000) ++ ['Z']

/-- An instant as text. -/
def Instant.text (instant : Instant) : String := String.ofList instant.chars

end RowFilter.Calendar
