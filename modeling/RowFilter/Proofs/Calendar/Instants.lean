import Mathlib.Data.Option.Basic
import RowFilter.Calendar.Reader
import RowFilter.Proofs.Calendar.Days
import RowFilter.Proofs.Number.Digits

/-!
# Instants of texts

Which instants the reader of dates gives: their years are in use, and the nanoseconds run past a
second only in the last second of a minute. Every instant with these properties falls on a date and
a time of day that exist, and is the instant of the two.
-/

namespace RowFilter.Calendar

open Number

/-- Whether an instant is one that a date and a time of day can have. -/
structure Instant.InUse (instant : Instant) : Prop where
  /-- It is not before the earliest year. -/
  earliest : daysBeforeYear earliestYear ≤ instant.seconds / 86400 + daysBeforeEpoch
  /-- It is not after the latest year. -/
  latest : instant.seconds / 86400 + daysBeforeEpoch < daysBeforeYear (latestYear + 1)
  /-- It lies within a second or a leap second. -/
  nanos_lt : instant.nanos < 2 * nanosPerSecond
  /-- A leap second ends a minute. -/
  ends_minute : nanosPerSecond ≤ instant.nanos → instant.seconds % 60 = 59

theorem instantOf?_eq_some_iff (date : Date) (time : TimeOfDay) (ahead : Int) (instant : Instant) :
    instantOf? date time ahead = some instant ↔
      date.isValid = true ∧ time.isValid = true ∧ instantOf date time ahead = instant := by
  unfold instantOf?
  split_ifs with valid
  · rw [Bool.and_eq_true] at valid
    simp [valid]
  · rw [Bool.and_eq_true] at valid
    simp only [false_iff]
    rintro ⟨date_valid, time_valid, _⟩
    exact valid ⟨date_valid, time_valid⟩

theorem TimeOfDay.isValid_iff (time : TimeOfDay) :
    time.isValid = true ↔ time.hour ≤ 23 ∧ time.minute ≤ 59 ∧ time.second ≤ 60 := by
  simp [isValid, and_assoc]

/-- The instant of a date and a time without an offset, or of a year of four digits and an offset of
less than a day, is in use. -/
theorem inUse_of_instantOf? {date : Date} {time : TimeOfDay} {ahead : Int} {instant : Instant}
    (found : instantOf? date time ahead = some instant) (nanos : time.nanos < nanosPerSecond)
    (minutes : ahead % 60 = 0)
    (near : ahead = 0 ∨ 0 ≤ date.year ∧ date.year ≤ 9999 ∧ -86400 < ahead ∧ ahead < 86400) :
    instant.InUse := by
  obtain ⟨date_valid, time_valid, rfl⟩ := (instantOf?_eq_some_iff _ _ _ _).mp found
  obtain ⟨early, late, exists_date⟩ := (Date.isValid_iff date).mp date_valid
  obtain ⟨begun, ended⟩ := Date.dayNumber_bounds exists_date
  obtain ⟨hours, minutes_of_hour, seconds⟩ := time.isValid_iff.mp time_valid
  have first := daysBeforeYear_mono early
  have last := daysBeforeYear_mono (show date.year + 1 ≤ latestYear + 1 by omega)
  let second := time.hour * 3600 + time.minute * 60 + min time.second 59
  have second_lt : second < 86400 := by omega
  have day : ahead = 0 → (date.dayNumber * 86400 + second - ahead) / 86400 = date.dayNumber := by
    omega
  have within : daysBeforeYear earliestYear ≤
        (date.dayNumber * 86400 + second - ahead) / 86400 + daysBeforeEpoch ∧
      (date.dayNumber * 86400 + second - ahead) / 86400 + daysBeforeEpoch <
        daysBeforeYear (latestYear + 1) := by
    rcases near with none_ahead | ⟨year_pos, year_le, low, high⟩
    · rw [day none_ahead]
      exact ⟨Int.le_trans first begun, Int.lt_of_lt_of_le ended last⟩
    · -- The first and the last year of four digits are far from the first and the last in use.
      have first_of_four := daysBeforeYear_mono year_pos
      have last_of_four := daysBeforeYear_mono (show date.year + 1 ≤ 10000 by omega)
      have margin : daysBeforeYear earliestYear + 1 ≤ daysBeforeYear 0 ∧
          daysBeforeYear 10000 + 1 ≤ daysBeforeYear (latestYear + 1) := by decide
      omega
  refine ⟨within.1, within.2, ?_, ?_⟩
  · show (if time.second = 60 then time.nanos + nanosPerSecond else time.nanos) < _
    split <;> omega
  · intro leap
    change nanosPerSecond ≤ if time.second = 60 then time.nanos + nanosPerSecond else time.nanos
      at leap
    show (date.dayNumber * 86400 + second - ahead) % 60 = 59
    split at leap <;> omega

/-! ### Instants that are read -/

theorem nanosOfDigits_lt {digits : List Nat} (each : ∀ digit ∈ digits, digit < 10) :
    nanosOfDigits digits < nanosPerSecond := by
  have kept : ∀ digit ∈ digits.take 9, digit < 10 :=
    fun digit hdigit => each digit (List.mem_of_mem_take hdigit)
  have nine : (digits.take 9).length + (9 - (digits.take 9).length) = 9 := by
    rw [List.length_take]
    omega
  calc
    nanosOfDigits digits < tenTo (digits.take 9).length * tenTo (9 - (digits.take 9).length) :=
        Nat.mul_lt_mul_of_pos_right (positional_lt kept) (tenTo_pos _)
    _ = nanosPerSecond := by
        rw [← tenTo_add, nine]
        rfl

theorem nanos_lt_of_scanOptionalFraction {text rest : List Char} {nanos : Nat}
    (found : scanOptionalFraction text = some (nanos, rest)) : nanos < nanosPerSecond := by
  unfold scanOptionalFraction at found
  split at found
  · rename_i fraction
    have each := spanDigits_lt_ten fraction
    unfold scanFraction at found
    split at found
    · cases found
    · rename_i digits _ _ read
      rw [read] at each
      cases found
      exact nanosOfDigits_lt each
  · cases found
    decide

/-- An offset is a number of minutes, of less than a day. -/
theorem minutes_of_scanOffset {text rest : List Char} {ahead : Int}
    (found : scanOffset text = some (ahead, rest)) :
    ahead % 60 = 0 ∧ -86400 < ahead ∧ ahead < 86400 := by
  unfold scanOffset at found
  split at found
  · cases found
  · split at found
    · cases found
      decide
    · split at found
      · simp only [Option.bind_eq_bind, Option.bind_eq_some_iff] at found
        obtain ⟨⟨hours, _⟩, _, _, _, ⟨minutes, _⟩, _, found⟩ := found
        dsimp only at found
        split at found
        · rename_i bounds
          rw [Bool.and_eq_true, decide_eq_true_eq, decide_eq_true_eq] at bounds
          obtain ⟨rfl, _⟩ := Prod.mk.inj (Option.some.inj found)
          split <;> omega
        · cases found
      · cases found

theorem lt_of_scanNumber {fewest most n : Nat} {text rest : List Char}
    (found : scanNumber fewest most text = some (n, rest)) : n < tenTo most := by
  obtain ⟨⟨digits, _⟩, scanned, same⟩ := Option.map_eq_some_iff.mp found
  obtain ⟨rfl, _⟩ := Prod.mk.inj same
  unfold scanDigits at scanned
  dsimp only at scanned
  split at scanned
  · cases scanned
  · obtain ⟨rfl, _⟩ := Prod.mk.inj (Option.some.inj scanned)
    have length : (spanDigits (text.take most)).1.length ≤ most :=
      Nat.le_trans (length_spanDigits_le _) (List.length_take_le most text)
    exact Nat.lt_of_lt_of_le (positional_lt (spanDigits_lt_ten _)) (tenTo_le_tenTo length)

theorem inUse_of_readTimestamp? {text : List Char} {instant : Instant}
    (found : readTimestamp? text = some instant) : instant.InUse := by
  unfold readTimestamp? at found
  obtain ⟨⟨year, _⟩, hyear, found⟩ := Option.bind_eq_some_iff.mp found
  obtain ⟨_, _, found⟩ := Option.bind_eq_some_iff.mp found
  obtain ⟨⟨month, _⟩, _, found⟩ := Option.bind_eq_some_iff.mp found
  obtain ⟨_, _, found⟩ := Option.bind_eq_some_iff.mp found
  obtain ⟨⟨day, _⟩, _, found⟩ := Option.bind_eq_some_iff.mp found
  obtain ⟨⟨mark, _⟩, _, found⟩ := Option.bind_eq_some_iff.mp found
  dsimp only at found
  split at found
  · obtain ⟨⟨hour, _⟩, _, found⟩ := Option.bind_eq_some_iff.mp found
    obtain ⟨_, _, found⟩ := Option.bind_eq_some_iff.mp found
    obtain ⟨⟨minute, _⟩, _, found⟩ := Option.bind_eq_some_iff.mp found
    obtain ⟨_, _, found⟩ := Option.bind_eq_some_iff.mp found
    obtain ⟨⟨second, _⟩, _, found⟩ := Option.bind_eq_some_iff.mp found
    obtain ⟨⟨nanos, _⟩, hnanos, found⟩ := Option.bind_eq_some_iff.mp found
    obtain ⟨⟨ahead, _⟩, hahead, found⟩ := Option.bind_eq_some_iff.mp found
    dsimp only at found
    split at found
    · have year_lt : year < 10000 := lt_of_scanNumber hyear
      obtain ⟨minutes, low, high⟩ := minutes_of_scanOffset hahead
      refine inUse_of_instantOf? found (nanos_lt_of_scanOptionalFraction hnanos) minutes (.inr ?_)
      exact ⟨Int.natCast_nonneg year, by dsimp only; omega, low, high⟩
    · cases found
  · cases found

theorem nanos_lt_of_scanTime {seconds : Bool} {text rest : List Char} {time : TimeOfDay}
    (found : scanTime seconds text = some (time, rest)) : time.nanos < nanosPerSecond := by
  simp only [scanTime, Option.bind_eq_bind, Option.bind_eq_some_iff] at found
  obtain ⟨⟨hour, _⟩, _, _, _, ⟨minute, _⟩, _, found⟩ := found
  split at found
  · simp only [Option.bind_eq_some_iff] at found
    obtain ⟨_, _, ⟨second, _⟩, _, ⟨nanos, _⟩, hnanos, same⟩ := found
    obtain ⟨rfl, _⟩ := Prod.mk.inj (Option.some.inj same)
    exact nanos_lt_of_scanOptionalFraction hnanos
  · obtain ⟨rfl, _⟩ := Prod.mk.inj (Option.some.inj found)
    show 0 < nanosPerSecond
    decide

theorem inUse_of_readDateTime? {separator : Separator} {seconds : Bool} {text : List Char}
    {instant : Instant} (found : readDateTime? separator seconds text = some instant) :
    instant.InUse := by
  simp only [readDateTime?, Option.bind_eq_bind, Option.bind_eq_some_iff] at found
  obtain ⟨⟨date, _⟩, _, _, _, ⟨time, _⟩, htime, found⟩ := found
  split at found
  · exact inUse_of_instantOf? found (nanos_lt_of_scanTime htime) rfl (.inl rfl)
  · cases found

theorem inUse_of_readDate? {text : List Char} {instant : Instant}
    (found : readDate? text = some instant) : instant.InUse := by
  simp only [readDate?, Option.bind_eq_bind, Option.bind_eq_some_iff] at found
  obtain ⟨⟨date, _⟩, _, found⟩ := found
  split at found
  · exact inUse_of_instantOf? found (by decide) rfl (.inl rfl)
  · cases found

/-- The instant of a text is in use. -/
theorem inUse_of_read? {text : String} {instant : Instant} (found : read? text = some instant) :
    instant.InUse := by
  simp only [read?, readChars?, Option.orElse_eq_some] at found
  rcases found with found | ⟨_, found | ⟨_, found | ⟨_, found | ⟨_, found | ⟨_, found⟩⟩⟩⟩⟩
  · exact inUse_of_readTimestamp? found
  · exact inUse_of_readDateTime? found
  · exact inUse_of_readDateTime? found
  · exact inUse_of_readDateTime? found
  · exact inUse_of_readDateTime? found
  · exact inUse_of_readDate? found

/-! ### Dates and times of instants -/

/-- The instant rounded down to the millisecond. -/
def Instant.inMillis (instant : Instant) : Instant :=
  ⟨instant.seconds, instant.nanos / 1000000 * 1000000⟩

/-- A time of day rounded down to the millisecond. -/
def TimeOfDay.inMillis (time : TimeOfDay) : TimeOfDay :=
  { time with nanos := time.nanos / 1000000 * 1000000 }

namespace Instant

/-- Outside a leap second the second of an instant gives all parts of its time of day. -/
theorem time_of_lt {instant : Instant} (within : instant.nanos < nanosPerSecond) :
    instant.time = ⟨(instant.seconds % 86400).toNat / 3600,
      (instant.seconds % 86400).toNat / 60 % 60, (instant.seconds % 86400).toNat % 60,
      instant.nanos⟩ :=
  if_neg (Nat.not_le.mpr within)

/-- In a leap second the second of the minute is one more. -/
theorem time_of_le {instant : Instant} (leap : nanosPerSecond ≤ instant.nanos) :
    instant.time = ⟨(instant.seconds % 86400).toNat / 3600,
      (instant.seconds % 86400).toNat / 60 % 60, (instant.seconds % 86400).toNat % 60 + 1,
      instant.nanos - nanosPerSecond⟩ :=
  if_pos leap

namespace InUse

variable {instant : Instant}

theorem date_isValid (inUse : instant.InUse) : instant.date.isValid = true := by
  obtain ⟨exists_date, year, _⟩ := dateOfDayNumber_spec (instant.seconds / 86400)
  obtain ⟨early, late⟩ := yearOfDays_bounds inUse.earliest inUse.latest
  exact (Date.isValid_iff _).mpr ⟨by rw [date, year]; exact early, by rw [date, year]; exact late,
    exists_date⟩

theorem time_nanos_lt (inUse : instant.InUse) : instant.time.nanos < nanosPerSecond := by
  have bound := inUse.nanos_lt
  by_cases leap : nanosPerSecond ≤ instant.nanos
  · rw [time_of_le leap]
    dsimp only
    omega
  · rw [time_of_lt (Nat.not_le.mp leap)]
    exact Nat.not_le.mp leap

theorem time_isValid (inUse : instant.InUse) : instant.time.isValid = true := by
  have leap_minute := inUse.ends_minute
  rw [TimeOfDay.isValid_iff]
  by_cases leap : nanosPerSecond ≤ instant.nanos
  · rw [time_of_le leap]
    dsimp only
    omega
  · rw [time_of_lt (Nat.not_le.mp leap)]
    dsimp only
    omega

/-- An instant in use is that of its date and its time of day, and these exist. -/
theorem instantOf?_date_time (inUse : instant.InUse) :
    instantOf? instant.date instant.time 0 = some instant := by
  obtain ⟨_, _, day⟩ := dateOfDayNumber_spec (instant.seconds / 86400)
  have seconds (second : Nat) (parts : second = (instant.seconds % 86400).toNat) :
      instant.date.dayNumber * 86400 + (second : Int) - 0 = instant.seconds := by
    rw [date, day, parts]
    omega
  rw [instantOf?_eq_some_iff]
  refine ⟨inUse.date_isValid, inUse.time_isValid, ?_⟩
  -- A leap second is the sixtieth of its minute, and the only one whose nanoseconds run on.
  by_cases leap : nanosPerSecond ≤ instant.nanos
  · have last := inUse.ends_minute leap
    rw [time_of_le leap, instantOf]
    dsimp only
    rw [if_pos (by omega), Nat.sub_add_cancel leap, seconds _ (by omega)]
  · rw [time_of_lt (Nat.not_le.mp leap), instantOf]
    dsimp only
    rw [if_neg (by omega), seconds _ (by omega)]

end InUse

end Instant

theorem instantOf_inMillis (date : Date) (time : TimeOfDay) (ahead : Int) :
    instantOf date time.inMillis ahead = (instantOf date time ahead).inMillis := by
  have whole : nanosPerSecond = 1000 * 1000000 := rfl
  unfold instantOf Instant.inMillis TimeOfDay.inMillis
  dsimp only
  split
  · rw [whole, Nat.add_mul_div_right _ _ (by decide), Nat.add_mul]
  · rfl

/-- The date and the rounded time of day of an instant in use are those of the rounded instant. -/
theorem Instant.InUse.instantOf?_inMillis {instant : Instant} (inUse : instant.InUse) :
    instantOf? instant.date instant.time.inMillis 0 = some instant.inMillis := by
  obtain ⟨date_valid, time_valid, same⟩ :=
    (instantOf?_eq_some_iff _ _ _ _).mp inUse.instantOf?_date_time
  rw [instantOf?_eq_some_iff, instantOf_inMillis, same]
  exact ⟨date_valid, time_valid, rfl⟩

end RowFilter.Calendar
