import RowFilter.Calendar.Date

/-!
# Instants

An instant is a second of universal time and the nanoseconds within it. Within a leap second the
nanoseconds run on past their thousand millions, so that it stands after the second before it and
before the second after it.
-/

namespace RowFilter.Calendar

/-- A point in universal time. -/
structure Instant where
  /-- The seconds since the start of 1970. -/
  seconds : Int
  /-- The nanoseconds within the second, a thousand millions or more within a leap second. -/
  nanos : Nat
  deriving DecidableEq, Repr

/-- The order of instants: by second, then by nanosecond. -/
def Instant.compare (a b : Instant) : Ordering :=
  (Ord.compare a.seconds b.seconds).then (Ord.compare a.nanos b.nanos)

/-- The nanoseconds of a second. -/
def nanosPerSecond : Nat := 1000000000

/-- A time of day, to the nanosecond. -/
structure TimeOfDay where
  /-- The hour. -/
  hour : Nat
  /-- The minute. -/
  minute : Nat
  /-- The second; sixty in a leap second. -/
  second : Nat
  /-- The nanoseconds within the second. -/
  nanos : Nat
  deriving DecidableEq, Repr

/-- Whether the time of day exists; a leap second may end any minute. -/
def TimeOfDay.isValid (time : TimeOfDay) : Bool :=
  time.hour ≤ 23 && time.minute ≤ 59 && time.second ≤ 60

/-- The instant of a date and a time of day, given by how many seconds local time is ahead. -/
def instantOf (date : Date) (time : TimeOfDay) (ahead : Int) : Instant :=
  let second := min time.second 59
  ⟨date.dayNumber * 86400 + (time.hour * 3600 + time.minute * 60 + second : Nat) - ahead,
    if time.second = 60 then time.nanos + nanosPerSecond else time.nanos⟩

namespace Instant

/-- The date of an instant. -/
def date (instant : Instant) : Date := dateOfDayNumber (instant.seconds / 86400)

/-- The time of day of an instant. -/
def time (instant : Instant) : TimeOfDay :=
  let second := (instant.seconds % 86400).toNat
  if nanosPerSecond ≤ instant.nanos then
    ⟨second / 3600, second / 60 % 60, second % 60 + 1, instant.nanos - nanosPerSecond⟩
  else ⟨second / 3600, second / 60 % 60, second % 60, instant.nanos⟩

end Instant

end RowFilter.Calendar
