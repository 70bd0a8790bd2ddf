import Mathlib.Data.List.Forall2
import RowFilter.Proofs.Calendar.Stamps

/-!
# Years of four digits

Instants are written in a form of 24 characters as long as their year has four digits, and such a
text is read as the instant rounded down to the millisecond. A date can be read whose year has more
digits or a sign, and an offset can carry an instant out of the years of four digits. Such an
instant is written with a sign, which makes the text longer, and no such text is read as a date.
-/

namespace RowFilter.Calendar

open Number Text

/-- The form of a written instant, with a zero wherever any digit may stand. -/
def stampForm : List Char := "0000-00-00T00:00:00.000Z".toList

/-- Whether a character may stand at a place of a form. -/
def FitsPlace (place c : Char) : Prop := if place = '0' then c.isDigit = true else c = place

/-- Whether a text has the form of a written instant. -/
def HasStampForm (text : String) : Prop := List.Forall₂ FitsPlace stampForm text.toList

/-- Whether the year of an instant has four digits and no sign. -/
def Instant.HasPlainYear (instant : Instant) : Prop :=
  0 ≤ instant.date.year ∧ instant.date.year ≤ 9999

theorem HasStampForm.length_eq {text : String} (form : HasStampForm text) : text.length = 24 := by
  rw [← String.length_toList, ← List.Forall₂.length_eq form]
  rfl

/-! ### Plain years -/

/-- A padded number has the form of as many digits, whatever the form of what follows it. -/
theorem forall₂_padded (width : Nat) {n : Nat} (positive : 0 < width) (small : n < tenTo width)
    {places rest : List Char} (later : List.Forall₂ FitsPlace places rest) :
    List.Forall₂ FitsPlace (List.replicate width '0' ++ places) (padded width n ++ rest) := by
  refine List.rel_append ?_ later
  rw [List.forall₂_iff_get]
  have length := length_padded_of_lt positive small
  refine ⟨by rw [List.length_replicate, length], fun i hi hi' => ?_⟩
  rw [List.get_eq_getElem, List.get_eq_getElem, List.getElem_replicate, FitsPlace, if_pos rfl]
  exact isDigit_of_mem_padded (List.getElem_mem _)

/-- A mark stands at its own place. -/
theorem forall₂_mark {mark : Char} (other : mark ≠ '0') {places rest : List Char}
    (later : List.Forall₂ FitsPlace places rest) :
    List.Forall₂ FitsPlace (mark :: places) (mark :: rest) :=
  .cons (by rw [FitsPlace, if_neg other]) later

namespace Instant

variable {instant : Instant}

theorem yearChars_of_hasPlainYear (plain : instant.HasPlainYear) :
    yearChars instant.date.year = padded 4 instant.date.year.natAbs := by
  obtain ⟨begun, ended⟩ := plain
  rw [yearChars, if_pos (by simp [begun, ended])]

/-- An instant of a plain year is written in the form of instants. -/
theorem hasStampForm_text (inUse : instant.InUse) (plain : instant.HasPlainYear) :
    HasStampForm instant.text := by
  have exists_date := ((Date.isValid_iff _).mp inUse.date_isValid).2.2
  have month : instant.date.month < 100 := Nat.lt_of_le_of_lt exists_date.month_le (by decide)
  have day : instant.date.day < 100 := Nat.lt_of_le_of_lt exists_date.day_le (by decide)
  obtain ⟨hour, minute, second⟩ := instant.time.isValid_iff.mp inUse.time_isValid
  have millis : instant.time.nanos / 1000000 < 1000 := Nat.div_lt_of_lt_mul inUse.time_nanos_lt
  have year : instant.date.year.natAbs < 10000 := by
    obtain ⟨begun, ended⟩ := plain
    omega
  rw [HasStampForm, Instant.text, String.toList_ofList]
  simp only [Instant.chars, Date.chars, yearChars_of_hasPlainYear plain, List.append_assoc,
    List.cons_append]
  refine forall₂_padded 4 (by decide) year (forall₂_mark (by decide) ?_)
  refine forall₂_padded 2 (by decide) month (forall₂_mark (by decide) ?_)
  refine forall₂_padded 2 (by decide) day (forall₂_mark (by decide) ?_)
  refine forall₂_padded 2 (by decide) (show _ < 100 by omega) (forall₂_mark (by decide) ?_)
  refine forall₂_padded 2 (by decide) (show _ < 100 by omega) (forall₂_mark (by decide) ?_)
  refine forall₂_padded 2 (by decide) (show _ < 100 by omega) (forall₂_mark (by decide) ?_)
  exact forall₂_padded 3 (by decide) millis (forall₂_mark (by decide) .nil)

/-! ### Other years -/

/-- The sign of a year that is not plain stands before its digits. -/
theorem exists_yearChars_eq_cons (signed : ¬ instant.HasPlainYear) :
    ∃ sign, (sign = '-' ∨ sign = '+') ∧
      yearChars instant.date.year = sign :: padded 4 instant.date.year.natAbs := by
  have other : ¬ (decide (0 ≤ instant.date.year) && decide (instant.date.year ≤ 9999)) = true := by
    rw [Bool.and_eq_true, decide_eq_true_eq, decide_eq_true_eq]
    exact signed
  rw [yearChars, if_neg other]
  split_ifs with negative
  · exact ⟨'-', .inl rfl, rfl⟩
  · exact ⟨'+', .inr rfl, rfl⟩

/-- A sign makes the text of an instant longer than the form. -/
theorem lt_length_text (signed : ¬ instant.HasPlainYear) : 24 < instant.text.length := by
  obtain ⟨sign, _, year⟩ := exists_yearChars_eq_cons signed
  rw [← String.length_toList, Instant.text, String.toList_ofList]
  simp only [Instant.chars, Date.chars, year, List.length_append, List.length_cons, length_padded,
    List.length_nil]
  omega

end Instant

/-- No internet timestamp begins with a sign. -/
theorem readTimestamp?_sign {sign : Char} (isSign : sign = '-' ∨ sign = '+') (rest : List Char) :
    readTimestamp? (sign :: rest) = none := by
  have digits : scanNumber 4 4 (sign :: rest) = none := by
    rcases isSign with rfl | rfl <;> rfl
  rw [readTimestamp?, digits]
  rfl

/-- The letter between a date and a time is no white space, and no time begins with it. -/
theorem scanTime_letter (seconds : Bool) (rest : List Char) :
    scanTime seconds (trimLeft ('T' :: rest)) = none := by
  rfl

/-- A written instant whose year has a sign is read in none of the ways: it is no internet
timestamp, and in the other ways its letter at the end is left over. -/
theorem readChars?_of_signed {instant : Instant} (inUse : instant.InUse)
    (signed : ¬ instant.HasPlainYear) : readChars? instant.chars = none := by
  have exists_date := ((Date.isValid_iff _).mp inUse.date_isValid).2.2
  obtain ⟨hour, minute, second⟩ := instant.time.isValid_iff.mp inUse.time_isValid
  have stops : ∀ c ∈ (['Z'] : List Char).head?, c.isDigit = false := by
    rintro c ⟨⟩
    rfl
  have timestamp : readTimestamp? instant.chars = none := by
    obtain ⟨sign, isSign, year⟩ := Instant.exists_yearChars_eq_cons signed
    simp only [Instant.chars, Date.chars, year, List.cons_append]
    exact readTimestamp?_sign isSign _
  have date : scanDate instant.chars = some (instant.date, 'T' :: (padded 2 instant.time.hour ++
      ':' :: (padded 2 instant.time.minute ++ ':' :: (padded 2 instant.time.second ++
        '.' :: (padded 3 (instant.time.nanos / 1000000) ++ ['Z']))))) := by
    simp only [Instant.chars, List.append_assoc, List.cons_append]
    exact scanDate_chars exists_date _
  have seconds : readDateTime? .letter true instant.chars = none := by
    simp only [readDateTime?, date, Option.bind_eq_bind, Option.bind_some, Separator.scan, scanChar,
      if_pos, scanTime_padded inUse.time_isValid inUse.time_nanos_lt stops]
    rfl
  have minutes : readDateTime? .letter false instant.chars = none := by
    simp only [readDateTime?, date, Option.bind_eq_bind, Option.bind_some, Separator.scan, scanChar,
      if_pos, scanTime, scanPair_padded (show instant.time.hour < 100 by omega),
      scanPair_padded (show instant.time.minute < 100 by omega)]
    rfl
  have space (seconds : Bool) : readDateTime? .space seconds instant.chars = none := by
    simp only [readDateTime?, date, Option.bind_eq_bind, Option.bind_some, Separator.scan,
      scanTime_letter, Option.bind_none]
  have bare : readDate? instant.chars = none := by
    simp only [readDate?, date, Option.bind_eq_bind, Option.bind_some]
    rfl
  rw [readChars?, timestamp, seconds, minutes, space, space, bare]
  rfl

/-! ### Both -/

/-- An instant that was read from a text is written in the form of instants, of 24 characters,
exactly if its year has four digits and no sign. Then what is written is read as the instant rounded
down to the millisecond. Otherwise it is longer and is not read at all. -/
theorem written_in_form_iff_plainYear {text : String} {instant : Instant}
    (found : read? text = some instant) :
    (HasStampForm instant.text ↔ instant.HasPlainYear) ∧
    (instant.text.length = 24 ↔ instant.HasPlainYear) ∧
    (instant.HasPlainYear → read? instant.text = some instant.inMillis) ∧
    (¬ instant.HasPlainYear → 24 < instant.text.length ∧ read? instant.text = none) := by
  have inUse := inUse_of_read? found
  have form : HasStampForm instant.text ↔ instant.HasPlainYear := by
    refine ⟨fun form => ?_, Instant.hasStampForm_text inUse⟩
    by_contra signed
    exact absurd form.length_eq (Nat.ne_of_gt (Instant.lt_length_text signed))
  refine ⟨form, ⟨fun length => ?_, fun plain => (form.mpr plain).length_eq⟩, ?_,
    fun signed => ⟨?_, ?_⟩⟩
  · by_contra signed
    exact absurd length (Nat.ne_of_gt (Instant.lt_length_text signed))
  · rintro ⟨begun, ended⟩
    exact read?_text inUse begun ended
  · exact Instant.lt_length_text signed
  · rw [read?, Instant.text, String.toList_ofList, trim_chars]
    exact readChars?_of_signed inUse signed

/-- A moment within a leap second is written with sixty seconds and read back. -/
theorem sample_leap_second_read_back :
    ∃ instant, read? "2017-01-01 00:59:60.98765+01:00" = some instant ∧
      instant.text = "2016-12-31T23:59:60.987Z" ∧ HasStampForm instant.text ∧
      read? instant.text = some instant.inMillis := by
  have found : read? "2017-01-01 00:59:60.98765+01:00" = some ⟨1483228799, 1987650000⟩ := by
    decide +kernel
  obtain ⟨form, _, readBack, _⟩ := written_in_form_iff_plainYear found
  have plain : Instant.HasPlainYear ⟨1483228799, 1987650000⟩ := by
    unfold Instant.HasPlainYear
    decide +kernel
  exact ⟨_, found, by decide +kernel, form.mpr plain, readBack plain⟩

/-- The last second of the last plain year lies in the year after it where clocks are behind, and
what is written for it is no form of a date that could be read. -/
theorem sample_last_second_not_read_back :
    ∃ instant, read? "9999-12-31T23:59:59-01:00" = some instant ∧
      instant.text = "+10000-01-01T00:59:59.000Z" ∧ ¬ HasStampForm instant.text ∧
      read? instant.text = none := by
  refine ⟨⟨253402304399, 0⟩, by decide +kernel, by decide +kernel, fun form => ?_,
    by decide +kernel⟩
  have length : (Instant.text ⟨253402304399, 0⟩).length = 26 := by decide +kernel
  exact absurd (length.symm.trans form.length_eq) (by decide)

end RowFilter.Calendar
