import Mathlib.Tactic.SplitIfs
import RowFilter.Calendar.Date

/-!
# Day numbers

Dates and day numbers belong together: the date of a day number exists and has that number, and the
years between two day numbers lie between the years of the two.
-/

namespace RowFilter.Calendar

open Number

/-- A year starts where the year before it ends. -/
theorem daysBeforeYear_add_one (year : Int) :
    daysBeforeYear (year + 1) = daysBeforeYear year + total (monthLengths year) := by
  have leap : isLeapYear year = true ↔
      year % 4 = 0 ∧ (year % 100 ≠ 0 ∨ year % 400 = 0) := by
    simp [isLeapYear]
  unfold daysBeforeYear monthLengths
  cases long : isLeapYear year with
  | true =>
      have divisible := leap.mp long
      simp only [total, if_true]
      omega
  | false =>
      have other : ¬ (year % 4 = 0 ∧ (year % 100 ≠ 0 ∨ year % 400 = 0)) := by
        rw [← leap, long]
        exact Bool.false_ne_true
      simp only [total, if_false, Bool.false_eq_true]
      omega

theorem daysBeforeYear_mono {earlier later : Int} (ordered : earlier ≤ later) :
    daysBeforeYear earlier ≤ daysBeforeYear later := by
  unfold daysBeforeYear
  omega

/-- The year of a day is the one that the day lies in. -/
theorem yearOfDays_spec (days : Int) :
    daysBeforeYear (yearOfDays days) ≤ days ∧ days < daysBeforeYear (yearOfDays days + 1) := by
  unfold yearOfDays
  dsimp only
  split_ifs with before after
  · unfold daysBeforeYear at *
    omega
  · unfold daysBeforeYear at *
    omega
  · omega

/-- A day between the starts of two years lies in a year between them. -/
theorem yearOfDays_bounds {earliest latest days : Int} (low : daysBeforeYear earliest ≤ days)
    (high : days < daysBeforeYear (latest + 1)) :
    earliest ≤ yearOfDays days ∧ yearOfDays days ≤ latest := by
  obtain ⟨begun, ended⟩ := yearOfDays_spec days
  constructor
  · apply Int.not_lt.mp
    intro before
    have ends := daysBeforeYear_mono (show yearOfDays days + 1 ≤ earliest from before)
    omega
  · apply Int.not_lt.mp
    intro after
    have starts := daysBeforeYear_mono (show latest + 1 ≤ yearOfDays days from after)
    omega

/-- A day of a row of months lies in one of them: the months before it and the days in it add up. -/
theorem monthAndDay_spec {lengths : List Nat} (month : Nat) {day : Nat}
    (within : day < total lengths) :
    ∃ passed length, lengths[passed]? = some length ∧
      (monthAndDay month day lengths).1 = month + passed ∧
      1 ≤ (monthAndDay month day lengths).2 ∧ (monthAndDay month day lengths).2 ≤ length ∧
      total (lengths.take passed) + ((monthAndDay month day lengths).2 - 1) = day := by
  induction lengths generalizing month day with
  | nil => simp [total] at within
  | cons length rest ih =>
      rw [monthAndDay]
      split_ifs with here
      · exact ⟨0, length, rfl, rfl, by omega, by omega, by simp [total]⟩
      · have later : day - length < total rest := by
          rw [total] at within
          omega
        obtain ⟨passed, found, member, months, first, last, sum⟩ := ih (month + 1) later
        refine ⟨passed + 1, found, member, by omega, first, last, ?_⟩
        rw [List.take_succ_cons, total]
        omega

theorem total_take_add_le {lengths : List Nat} {passed length : Nat}
    (member : lengths[passed]? = some length) :
    total (lengths.take passed) + length ≤ total lengths := by
  induction lengths generalizing passed with
  | nil => simp at member
  | cons first rest ih =>
      cases passed with
      | zero =>
          obtain rfl : first = length := Option.some.inj member
          simp [total]
      | succ passed =>
          have later : total (rest.take passed) + length ≤ total rest := ih member
          rw [List.take_succ_cons, total, total]
          omega

namespace Date

/-- Whether the date exists, in whichever year. -/
def Exists (date : Date) : Prop :=
  1 ≤ date.month ∧ 1 ≤ date.day ∧
    ∃ length, (monthLengths date.year)[date.month - 1]? = some length ∧ date.day ≤ length

theorem isValid_iff (date : Date) :
    date.isValid = true ↔ earliestYear ≤ date.year ∧ date.year ≤ latestYear ∧ date.Exists := by
  unfold isValid Exists
  cases (monthLengths date.year)[date.month - 1]? <;> simp [and_assoc]

theorem Exists.month_le {date : Date} (exists_date : date.Exists) : date.month ≤ 12 := by
  obtain ⟨_, _, length, member, _⟩ := exists_date
  have within : date.month - 1 < 12 := (List.getElem?_eq_some_iff.mp member).1
  omega

theorem Exists.day_le {date : Date} (exists_date : date.Exists) : date.day ≤ 31 := by
  obtain ⟨_, _, length, member, last⟩ := exists_date
  have longest : ∀ length ∈ monthLengths date.year, length ≤ 31 := by
    unfold monthLengths
    cases isLeapYear date.year <;> decide
  exact Nat.le_trans last (longest length (List.mem_of_getElem? member))

/-- A date lies in its year. -/
theorem dayNumber_bounds {date : Date} (exists_date : date.Exists) :
    daysBeforeYear date.year ≤ date.dayNumber + daysBeforeEpoch ∧
      date.dayNumber + daysBeforeEpoch < daysBeforeYear (date.year + 1) := by
  obtain ⟨_, first, length, member, last⟩ := exists_date
  have months := total_take_add_le member
  rw [daysBeforeYear_add_one, dayNumber]
  omega

end Date

/-- The date of a day number exists, lies in the year of the day, and has that number. -/
theorem dateOfDayNumber_spec (number : Int) :
    (dateOfDayNumber number).Exists ∧
      (dateOfDayNumber number).year = yearOfDays (number + daysBeforeEpoch) ∧
      (dateOfDayNumber number).dayNumber = number := by
  obtain ⟨begun, ended⟩ := yearOfDays_spec (number + daysBeforeEpoch)
  rw [daysBeforeYear_add_one] at ended
  have within : (number + daysBeforeEpoch - daysBeforeYear
      (yearOfDays (number + daysBeforeEpoch))).toNat <
        total (monthLengths (yearOfDays (number + daysBeforeEpoch))) := by
    omega
  obtain ⟨passed, length, member, months, first, last, sum⟩ := monthAndDay_spec 1 within
  have month : (dateOfDayNumber number).month = 1 + passed := months
  refine ⟨⟨by omega, first, length, ?_, last⟩, rfl, ?_⟩
  · rw [month, Nat.add_sub_cancel_left]
    exact member
  · rw [Date.dayNumber, month, Nat.add_sub_cancel_left]
    unfold dateOfDayNumber
    dsimp only
    omega

end RowFilter.Calendar
