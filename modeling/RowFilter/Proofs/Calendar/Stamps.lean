import RowFilter.Calendar.Writer
import RowFilter.Proofs.Calendar.Instants

/-!
# Written instants

What the text of an instant denotes: its date, whose year may have a sign, and its time of day in
universal time. It is written to the millisecond, so the text of an instant in use denotes that
instant rounded down.
-/

namespace RowFilter.Calendar

open Number Text

/-- The instant that a written one denotes. -/
def stamp? (text : List Char) : Option Instant := do
  let (date, text) ← scanDate text
  let text ← scanChar 'T' text
  let (time, text) ← scanTime true text
  let text ← scanChar 'Z' text
  if text.isEmpty then instantOf? date time 0 else none

/-! ### Padded numbers -/

theorem isDigit_of_mem_padded {width n : Nat} {c : Char} (member : c ∈ padded width n) :
    c.isDigit = true := by
  rcases List.mem_append.mp member with zero | digit
  · rw [List.eq_of_mem_replicate zero]
    rfl
  · exact Nat.isDigit_of_mem_toDigits (by decide) (by decide) digit

theorem ofDigitChars_padded (width n : Nat) : Nat.ofDigitChars 10 (padded width n) 0 = n := by
  show Nat.ofDigitChars 10 (List.replicate _ '0' ++ Nat.toDigits 10 n) 0 = n
  rw [Nat.ofDigitChars_append, Nat.ofDigitChars_replicate_zero, Nat.mul_zero]
  exact Nat.ofDigitChars_ten_toDigits

theorem length_padded (width n : Nat) :
    (padded width n).length = max width (digitChars n).length := by
  show (List.replicate _ '0' ++ digitChars n).length = _
  rw [List.length_append, List.length_replicate]
  omega

theorem length_padded_of_lt {width n : Nat} (positive : 0 < width) (small : n < tenTo width) :
    (padded width n).length = width := by
  have fits : (digitChars n).length ≤ width :=
    (Nat.length_toDigits_le_iff (by decide) positive).mpr small
  rw [length_padded, Nat.max_eq_left fits]

theorem exists_padded_eq_cons {width : Nat} (positive : 0 < width) (n : Nat) :
    ∃ c rest, padded width n = c :: rest ∧ c.isDigit = true := by
  cases same : padded width n with
  | nil =>
      have length := length_padded width n
      rw [same, List.length_nil] at length
      omega
  | cons c rest =>
      exact ⟨c, rest, rfl, isDigit_of_mem_padded (by rw [same]; exact List.mem_cons_self)⟩

/-! ### Reading padded numbers -/

/-- A row of digits is read as its number, up to a character that is none or to the most digits. -/
theorem scanNumber_append {fewest most : Nat} {chars rest : List Char}
    (digits : ∀ c ∈ chars, c.isDigit = true) (enough : fewest ≤ chars.length)
    (fits : chars.length ≤ most)
    (stops : chars.length = most ∨ ∀ c ∈ rest.head?, c.isDigit = false) :
    scanNumber fewest most (chars ++ rest) = some (Nat.ofDigitChars 10 chars 0, rest) := by
  have taken : spanDigits ((chars ++ rest).take most) =
      (digitValues chars, rest.take (most - chars.length)) := by
    rw [List.take_append, List.take_of_length_le fits]
    apply spanDigits_append digits
    intro c hc
    rw [List.head?_take] at hc
    split_ifs at hc with full
    · cases hc
    · rcases stops with filled | stops
      · omega
      · exact stops c hc
  have length : (digitValues chars).length = chars.length := List.length_map _
  rw [scanNumber, scanDigits, taken]
  dsimp only
  rw [length, if_neg (Nat.not_lt.mpr enough), List.drop_left, Option.map_some,
    positional_digitValues]

/-- A number that fills its width is read back, whatever follows it. -/
theorem scanNumber_padded {width n : Nat} (positive : 0 < width) (small : n < tenTo width)
    (rest : List Char) : scanNumber width width (padded width n ++ rest) = some (n, rest) := by
  have length := length_padded_of_lt positive small
  rw [scanNumber_append (fun _ => isDigit_of_mem_padded) (Nat.le_of_eq length.symm)
    (Nat.le_of_eq length) (.inl length), ofDigitChars_padded]

theorem isBlank_of_isDigit {c : Char} (digit : c.isDigit = true) : isBlank c = false := by
  have bounds : 48 ≤ c.toNat ∧ c.toNat ≤ 57 := by
    simpa [Char.isDigit, UInt32.le_iff_toNat_le] using digit
  -- Digits lie between the second and the third range of white space.
  rw [isBlank, CharSet.contains, whiteSpace, inRanges, if_neg (by omega), if_neg (by omega),
    inRanges, if_neg (by omega), if_neg (by omega), inRanges, if_pos (by omega)]

theorem trimLeft_padded_append {width : Nat} (positive : 0 < width) (n : Nat) (rest : List Char) :
    trimLeft (padded width n ++ rest) = padded width n ++ rest := by
  obtain ⟨c, others, same, digit⟩ := exists_padded_eq_cons positive n
  rw [same, List.cons_append, trimLeft, List.dropWhile_cons_of_neg]
  rw [isBlank_of_isDigit digit]
  exact Bool.false_ne_true

theorem scanPair_padded {n : Nat} (small : n < 100) (rest : List Char) :
    scanPair (padded 2 n ++ rest) = some (n, rest) := by
  have length : (padded 2 n).length = 2 := length_padded_of_lt (by decide) small
  rw [scanPair, trimLeft_padded_append (by decide),
    scanNumber_append (fun _ => isDigit_of_mem_padded) (by omega) (by omega) (.inl length),
    ofDigitChars_padded]

theorem scanOptionalFraction_padded {millis : Nat} (small : millis < 1000) {rest : List Char}
    (stops : ∀ c ∈ rest.head?, c.isDigit = false) :
    scanOptionalFraction ('.' :: (padded 3 millis ++ rest)) = some (millis * 1000000, rest) := by
  have length : (digitValues (padded 3 millis)).length = 3 := by
    rw [digitValues, List.length_map, length_padded_of_lt (by decide) small]
  have taken : (digitValues (padded 3 millis)).take 9 = digitValues (padded 3 millis) :=
    List.take_of_length_le (by omega)
  have nanos : nanosOfDigits (digitValues (padded 3 millis)) = millis * 1000000 := by
    rw [nanosOfDigits, taken, length, positional_digitValues, ofDigitChars_padded]
    rfl
  rw [← nanos]
  show scanFraction (padded 3 millis ++ rest) = _
  rw [scanFraction, spanDigits_append (fun _ => isDigit_of_mem_padded) stops]
  cases values : digitValues (padded 3 millis) with
  | nil => simp [values] at length
  | cons digit others => rfl

/-! ### Reading dates and times back -/

private theorem scanYear_minus (text : List Char) :
    scanYear ('-' :: text) =
      (scanNumber 1 text.length text).map fun scan => (-(scan.1 : Int), scan.2) :=
  rfl

private theorem scanYear_plus (text : List Char) :
    scanYear ('+' :: text) =
      (scanNumber 1 text.length text).map fun scan => ((scan.1 : Int), scan.2) :=
  rfl

/-- A year is read back from its digits and its sign, if it has one. -/
theorem scanYear_yearChars (year : Int) {rest : List Char}
    (stops : ∀ c ∈ rest.head?, c.isDigit = false) :
    scanYear (yearChars year ++ rest) = some (year, rest) := by
  have signed : scanNumber 1 (padded 4 year.natAbs ++ rest).length (padded 4 year.natAbs ++ rest) =
      some (year.natAbs, rest) := by
    have length := length_padded 4 year.natAbs
    rw [scanNumber_append (fun _ => isDigit_of_mem_padded) (by omega)
      (by rw [List.length_append]; omega) (.inr stops), ofDigitChars_padded]
  unfold yearChars
  split_ifs with four negative
  · rw [Bool.and_eq_true, decide_eq_true_eq, decide_eq_true_eq] at four
    have small : year.natAbs < 10000 := by omega
    have length : (padded 4 year.natAbs).length = 4 := length_padded_of_lt (by decide) small
    obtain ⟨c, others, same, digit⟩ := exists_padded_eq_cons (show 0 < 4 by decide) year.natAbs
    have unsigned : scanYear (padded 4 year.natAbs ++ rest) =
        (scanNumber 1 4 (padded 4 year.natAbs ++ rest)).map
          fun scan => ((scan.1 : Int), scan.2) := by
      rw [scanYear, trimLeft_padded_append (by decide), same, List.cons_append]
      -- A digit is no sign.
      split
      · rename_i minus
        rw [(List.cons.inj minus).1] at digit
        exact Bool.noConfusion digit
      · rename_i plus
        rw [(List.cons.inj plus).1] at digit
        exact Bool.noConfusion digit
      · rfl
    rw [unsigned, scanNumber_append (fun _ => isDigit_of_mem_padded) (by omega) (by omega)
      (.inl length), ofDigitChars_padded, Option.map_some, Int.natAbs_of_nonneg four.1]
  · have value : -(year.natAbs : Int) = year := by omega
    rw [List.cons_append, scanYear_minus, signed, Option.map_some, value]
  · have value : (year.natAbs : Int) = year := by
      rw [Bool.and_eq_true, decide_eq_true_eq, decide_eq_true_eq] at four
      omega
    rw [List.cons_append, scanYear_plus, signed, Option.map_some, value]

theorem scanDate_chars {date : Date} (exists_date : date.Exists) (rest : List Char) :
    scanDate (date.chars ++ rest) = some (date, rest) := by
  have month : date.month < 100 := Nat.lt_of_le_of_lt exists_date.month_le (by decide)
  have day : date.day < 100 := Nat.lt_of_le_of_lt exists_date.day_le (by decide)
  have stops : ∀ c ∈ ('-' :: (padded 2 date.month ++ '-' :: (padded 2 date.day ++ rest))).head?,
      c.isDigit = false := by
    rintro c ⟨⟩
    rfl
  simp only [Date.chars, List.append_assoc, List.cons_append, scanDate, Option.bind_eq_bind,
    scanYear_yearChars _ stops, scanPair_padded month, scanPair_padded day, scanChar, if_pos,
    Option.bind_some]
  rfl

/-- The time of day of a written instant is read back to the millisecond. -/
theorem scanTime_padded {time : TimeOfDay} (valid : time.isValid = true)
    (nanos : time.nanos < nanosPerSecond) {rest : List Char}
    (stops : ∀ c ∈ rest.head?, c.isDigit = false) :
    scanTime true (padded 2 time.hour ++ ':' :: (padded 2 time.minute ++ ':' ::
      (padded 2 time.second ++ '.' :: (padded 3 (time.nanos / 1000000) ++ rest)))) =
        some (time.inMillis, rest) := by
  obtain ⟨hour, minute, second⟩ := time.isValid_iff.mp valid
  have millis : time.nanos / 1000000 < 1000 := Nat.div_lt_of_lt_mul nanos
  simp only [scanTime, Option.bind_eq_bind, scanPair_padded (show time.hour < 100 by omega),
    scanPair_padded (show time.minute < 100 by omega),
    scanPair_padded (show time.second < 100 by omega), scanChar, if_pos, Option.bind_some,
    scanOptionalFraction_padded millis stops]
  rfl

/-- The text of an instant in use denotes the instant rounded down to the millisecond. -/
theorem stamp?_chars {instant : Instant} (inUse : instant.InUse) :
    stamp? instant.chars = some instant.inMillis := by
  have exists_date := ((Date.isValid_iff _).mp inUse.date_isValid).2.2
  have stops : ∀ c ∈ (['Z'] : List Char).head?, c.isDigit = false := by
    rintro c ⟨⟩
    rfl
  simp only [stamp?, Instant.chars, List.append_assoc, List.cons_append, Option.bind_eq_bind,
    scanDate_chars exists_date, scanTime_padded inUse.time_isValid inUse.time_nanos_lt stops,
    scanChar, if_pos, Option.bind_some]
  exact inUse.instantOf?_inMillis

/-! ### Reading with the offset -/

theorem trimLeft_yearChars_append (year : Int) (rest : List Char) :
    trimLeft (yearChars year ++ rest) = yearChars year ++ rest := by
  unfold yearChars
  split_ifs with four negative
  · exact trimLeft_padded_append (by decide) _ _
  · rfl
  · rfl

/-- A written instant has no white space at either end. -/
theorem trim_chars (instant : Instant) : trim instant.chars = instant.chars := by
  have left : trimLeft instant.chars = instant.chars := by
    simp only [Instant.chars, Date.chars, List.append_assoc]
    exact trimLeft_yearChars_append _ _
  rw [trim, left, trimRight, Instant.chars, List.reverse_append, List.reverse_singleton,
    List.singleton_append, List.dropWhile_cons_of_neg (by decide), List.reverse_cons,
    List.reverse_reverse]

/-- Within the years of four digits the reader of dates agrees: the text of an instant in use is
read as the instant rounded down to the millisecond. -/
theorem read?_text {instant : Instant} (inUse : instant.InUse) (begun : 0 ≤ instant.date.year)
    (ended : instant.date.year ≤ 9999) : read? instant.text = some instant.inMillis := by
  have exists_date := ((Date.isValid_iff _).mp inUse.date_isValid).2.2
  have month : instant.date.month < 100 := Nat.lt_of_le_of_lt exists_date.month_le (by decide)
  have day : instant.date.day < 100 := Nat.lt_of_le_of_lt exists_date.day_le (by decide)
  obtain ⟨hour, minute, second⟩ := instant.time.isValid_iff.mp inUse.time_isValid
  have millis : instant.time.nanos / 1000000 < 1000 := Nat.div_lt_of_lt_mul inUse.time_nanos_lt
  have year : yearChars instant.date.year = padded 4 instant.date.year.natAbs := by
    rw [yearChars, if_pos (by simp [begun, ended])]
  have stops : ∀ c ∈ (['Z'] : List Char).head?, c.isDigit = false := by
    rintro c ⟨⟩
    rfl
  have small : instant.date.year.natAbs < 10000 := by omega
  have four (rest : List Char) : scanNumber 4 4 (padded 4 instant.date.year.natAbs ++ rest) =
      some (instant.date.year.natAbs, rest) :=
    scanNumber_padded (by decide) small rest
  have two {n : Nat} (small : n < 100) (rest : List Char) :
      scanNumber 2 2 (padded 2 n ++ rest) = some (n, rest) :=
    scanNumber_padded (by decide) small rest
  have read : readTimestamp? instant.chars = some instant.inMillis := by
    simp only [Instant.chars, Date.chars, year, List.append_assoc, List.cons_append]
    refine Option.bind_eq_some_iff.mpr ⟨_, four _, ?_⟩
    refine Option.bind_eq_some_iff.mpr ⟨_, rfl, ?_⟩
    refine Option.bind_eq_some_iff.mpr ⟨_, two month _, ?_⟩
    refine Option.bind_eq_some_iff.mpr ⟨_, rfl, ?_⟩
    refine Option.bind_eq_some_iff.mpr ⟨_, two day _, ?_⟩
    refine Option.bind_eq_some_iff.mpr ⟨_, rfl, ?_⟩
    refine Option.bind_eq_some_iff.mpr ⟨_, two (by omega) _, ?_⟩
    refine Option.bind_eq_some_iff.mpr ⟨_, rfl, ?_⟩
    refine Option.bind_eq_some_iff.mpr ⟨_, two (by omega) _, ?_⟩
    refine Option.bind_eq_some_iff.mpr ⟨_, rfl, ?_⟩
    refine Option.bind_eq_some_iff.mpr ⟨_, two (by omega) _, ?_⟩
    refine Option.bind_eq_some_iff.mpr ⟨_, scanOptionalFraction_padded millis stops, ?_⟩
    show instantOf? ⟨(instant.date.year.natAbs : Int), _, _⟩ instant.time.inMillis 0 = _
    rw [Int.natAbs_of_nonneg begun]
    exact inUse.instantOf?_inMillis
  rw [read?, Instant.text, String.toList_ofList, trim_chars, readChars?, read]
  rfl

end RowFilter.Calendar
