import RowFilter.Calendar.Instant

/-!
# Dates and instants of the database

The database counts days and microseconds from the start of the year 2000. What lies between two
microseconds is cut off towards that start; within a leap second the count runs on into the next
second.
-/

namespace RowFilter.Postgres.Clock

open Calendar

/-- The number of the first day of 2000. -/
def epochDay : Int := 10957

/-- The number of days that the database counts for a date. -/
def daysOf (date : Date) : Int := date.dayNumber - epochDay

/-- The number of microseconds that the database counts for an instant. -/
def microsOf (instant : Instant) : Int :=
  Int.tdiv ((instant.seconds - epochDay * 86400) * nanosPerSecond + instant.nanos) 1000

/-- The date of a number of days, if its year is in use. -/
def dateOf? (days : Int) : Option Date :=
  let date := dateOfDayNumber (days + epochDay)
  if date.isValid then some date else none

/-- The instant of a number of microseconds, if its year is in use. -/
def instantOf? (micros : Int) : Option Instant :=
  let instant : Instant := ⟨epochDay * 86400 + micros / 1000000, (micros % 1000000).toNat * 1000⟩
  if instant.date.isValid then some instant else none

end RowFilter.Postgres.Clock
