import RowFilter.Proofs.Json.NumberRange
import RowFilter.Proofs.Json.PrintedNumbers
import RowFilter.Proofs.Number.Nearest

/-!
# Whole numbers of any length

The digits of a whole number are read into a significand as long as they fit, and only counted from
then on. So a whole number of 64 bits is read as it is, and a longer one as a double that is near to
it, or not at all if that is not finite.
-/

namespace RowFilter.Json

open Number RowFilter.Filter

variable {rest : Source}

/-! ### Digits that do not all fit -/

/-- Of a row of digits those at the front are read, and the first that is left does not fit. -/
theorem exists_takeDigits_eq {chars : List Char} (digits : ∀ c ∈ chars, c.isDigit = true)
    (significand : Nat) (stops : StopsNumber rest) :
    ∃ front back, chars = front ++ back ∧
      takeDigits significand (chars.map .char ++ rest) =
        ⟨Nat.ofDigitChars 10 front significand, front.length, back.map .char ++ rest⟩ ∧
      (back = [] ∨ greatestSignificand < 10 * Nat.ofDigitChars 10 front significand + 10 ∧
        greatestSignificand < Nat.ofDigitChars 10 (front ++ back) significand) := by
  induction chars generalizing significand with
  | nil => exact ⟨[], [], rfl, takeDigits_of_stops significand stops, .inl rfl⟩
  | cons c chars ih =>
      rw [List.forall_mem_cons] at digits
      have found : digit? (.char c) = some (c.toNat - '0'.toNat) := digitValue?_of_isDigit digits.1
      have small : c.toNat - '0'.toNat < 10 := digitValue?_lt_ten found
      rw [List.map_cons, List.cons_append, takeDigits, found]
      dsimp only
      split
      · rename_i beyond
        refine ⟨[], c :: chars, rfl, rfl, .inr ⟨?_, ?_⟩⟩
        · exact Nat.lt_trans beyond (Nat.add_lt_add_left small _)
        · rw [List.nil_append, Nat.ofDigitChars_cons]
          exact Nat.lt_of_lt_of_le beyond (le_ofDigitChars chars _)
      · obtain ⟨front, back, rfl, read, fits⟩ :=
          ih digits.2 (10 * significand + (c.toNat - '0'.toNat))
        rw [read]
        exact ⟨c :: front, back, rfl, rfl, fits⟩

theorem skipDigits_digits {chars : List Char} (digits : ∀ c ∈ chars, c.isDigit = true)
    (stops : StopsNumber rest) : skipDigits (chars.map .char ++ rest) = (chars.length, rest) := by
  induction chars with
  | nil => exact skipDigits_of_stops stops
  | cons c chars ih =>
      rw [List.forall_mem_cons] at digits
      have found : digit? (.char c) = some (c.toNat - '0'.toNat) := digitValue?_of_isDigit digits.1
      rw [List.map_cons, List.cons_append, skipDigits, found, Option.isSome_some, if_pos rfl,
        ih digits.2]
      rfl

/-- Whether a number is a significand with digits left out. -/
structure LeftOut (n significand extra : Nat) : Prop where
  /-- The significand is no more than there is room for. -/
  fits : significand ≤ greatestSignificand
  /-- With zeros for the digits that are left out it is not above the number. -/
  low : significand * tenTo extra ≤ n
  /-- With nines for these it is not below. -/
  high : n < (significand + 1) * tenTo extra
  /-- Digits are left out only where there is no room for one more. -/
  full : extra = 0 ∨ greatestSignificand < 10 * significand + 10 ∧ greatestSignificand < n

theorem ofDigitChars_lt {chars : List Char} (digits : ∀ c ∈ chars, c.isDigit = true) :
    Nat.ofDigitChars 10 chars 0 < tenTo chars.length := by
  rw [← positional_digitValues]
  have bound := @positional_lt (digitValues chars) (by
    intro digit member
    obtain ⟨c, hc, rfl⟩ := List.mem_map.mp member
    exact digitValue?_lt_ten (digitValue?_of_isDigit (digits c hc)))
  rwa [digitValues, List.length_map] at bound

/-- The digits of a number are read as a significand and how many were left out. -/
theorem exists_numeral_eq (negative : Bool) (n : Nat) (stops : StopsNumber rest) :
    ∃ significand extra, LeftOut n significand extra ∧
      numeral negative ((digitChars n).map .char ++ rest) =
        wholeOrScaled negative significand extra rest := by
  rcases Nat.eq_zero_or_pos n with rfl | positive
  · refine ⟨0, 0, ⟨Nat.zero_le _, Nat.le_refl 0, by decide, .inl rfl⟩, ?_⟩
    exact numeral_digitChars negative (Nat.zero_le _) stops
  · obtain ⟨first, chars, small, digits, total, read⟩ := exists_numeral_digitChars negative positive
    obtain ⟨front, back, rfl, taken, full⟩ := exists_takeDigits_eq digits first stops
    rw [List.forall_mem_append] at digits
    have fits := takeDigits_le (Nat.le_trans (Nat.le_of_lt small) (by decide))
      ((front ++ back).map .char ++ rest)
    rw [taken] at fits
    rw [total] at full
    rw [Nat.ofDigitChars_append, Nat.ofDigitChars_eq_ofDigitChars_zero] at total
    rw [read, taken, skipDigits_digits digits.2 stops, afterWhole_of_stops _ _ _ stops]
    have left := ofDigitChars_lt digits.2
    have scaled : 10 ^ back.length * Nat.ofDigitChars 10 front first =
        Nat.ofDigitChars 10 front first * tenTo back.length := Nat.mul_comm _ _
    rw [scaled] at total
    refine ⟨_, _, ⟨fits, ?_, ?_, full.imp_left fun none => by rw [none, List.length_nil]⟩, rfl⟩
    · rw [← total]
      exact Nat.le_add_right _ _
    · rw [← total, Nat.succ_mul]
      exact Nat.add_lt_add_left left _

/-! ### Doubles near to whole numbers -/

/-- A significand with digits left out is read as the product of two doubles. -/
theorem eq_times_of_scaled? {significand extra : Nat} (positive : 0 < significand) {x : Double}
    (scaled : scaled? significand extra = some x) :
    extra ≤ greatestPower ∧ x.isFinite = true ∧
      x = (Double.ofInt significand).times (powerOfTen extra) := by
  have nonzero : (Double.ofInt significand).isZero = false :=
    Double.isZero_of_magnitude_pos (Double.magnitude_ofInt _ ▸ Double.roundedUnits_pos positive)
  unfold scaled? at scaled
  dsimp only at scaled
  rw [if_neg (by omega), nonzero, if_neg Bool.false_ne_true, Int.natAbs_natCast] at scaled
  split at scaled
  · cases scaled
  · rename_i within
    split at scaled
    · rename_i finite
      obtain rfl := Option.some.inj scaled
      exact ⟨Int.ofNat_le.mp (Int.not_lt.mp within), finite, rfl⟩
    · cases scaled

namespace LeftOut

variable {n significand extra : Nat}

/-- The significand with zeros for the digits that are left out is near to the number. -/
theorem near (leftOut : LeftOut n significand extra) :
    Near (twoTo 60 - 1) (twoTo 60) (significand * tenTo extra) n := by
  have greatest : greatestSignificand = 18446744073709551615 := by decide
  have parts : twoTo 60 = 1152921504606846976 := by decide
  have low := leftOut.low
  have high := leftOut.high
  rw [Nat.succ_mul] at high
  rcases leftOut.full with rfl | ⟨full, _⟩
  · have one : tenTo 0 = 1 := rfl
    rw [one] at low high
    rw [one, show n = significand * 1 by omega]
    exact .refl (by decide) _
  · have enough : twoTo 60 * tenTo extra ≤ significand * tenTo extra :=
      Nat.mul_le_mul_right _ (by omega)
    rw [parts] at enough
    rw [Near, parts]
    omega

theorem significand_pos (leftOut : LeftOut n significand extra) (some : extra ≠ 0) :
    0 < significand := by
  have greatest : greatestSignificand = 18446744073709551615 := by decide
  have full := (leftOut.full.resolve_left some).1
  omega

theorem significand_le (leftOut : LeftOut n significand extra) : significand ≤ tenTo 308 :=
  Nat.le_trans leftOut.fits (by decide +kernel)

/-- The double that a significand and the number of digits left out are read as is near to the
number. -/
theorem near_of_scaled? (leftOut : LeftOut n significand extra) (some : extra ≠ 0) {x : Double}
    (scaled : scaled? significand extra = .some x) :
    x.isFinite = true ∧ x.isNegative = false ∧
      Near (twoTo 51 - 1) (twoTo 51) x.magnitude (n * twoTo 1074) := by
  have positive := leftOut.significand_pos some
  obtain ⟨within, finite, rfl⟩ := eq_times_of_scaled? positive scaled
  have power : tenTo extra ≤ tenTo 308 := tenTo_le_tenTo within
  refine ⟨finite, ?_, ?_⟩
  · rw [Double.times, Double.isNegative_ofRatio, powerOfTen, Double.isNegative_ofInt,
      Double.isNegative_ofInt]
    rfl
  · have product := Double.near_times_ofInt finite ⟨positive, leftOut.significand_le⟩
      ⟨tenTo_pos extra, power⟩
    exact (product.trans (leftOut.near.mul_right _)).mono (by decide) (by decide)

end LeftOut

/-! ### Whole numbers in a text -/

/-- Whether a text starts with a whole number: digits, perhaps after a minus sign, with neither a
fraction nor an exponent behind them. -/
def WholeAt (text : Source) (n : Int) : Prop :=
  ∃ (negative : Bool) (magnitude : Nat) (rest : Source), StopsNumber rest ∧
    n = (if negative then -(magnitude : Int) else magnitude) ∧
    skipBlanks text =
      ((if negative then ['-'] else []) ++ digitChars magnitude).map .char ++ rest

/-- What a whole number is read as: itself if it is in range, and else a double near to it. Zero
with a sign is a double as well. -/
inductive ReadAsWhole (n : Int) : Numeral → Prop
  | exact (range : (Numeral.integer n).InRange) : ReadAsWhole n (.integer n)
  | minusZero (zero : n = 0) : ReadAsWhole n (.double (.zero true))
  | rounded {x : Double} (beyond : ¬ (Numeral.integer n).InRange) (near : x.NearWhole n) :
      ReadAsWhole n (.double x)

/-- A double without a sign that is near to a number is near to it with the sign of both. -/
theorem nearWhole_signed {x : Double} {magnitude : Nat} (negative : Bool) (positive : 0 < magnitude)
    (finite : x.isFinite = true) (unsigned : x.isNegative = false)
    (near : Near (twoTo 51 - 1) (twoTo 51) x.magnitude (magnitude * twoTo 1074)) :
    (signed negative x).NearWhole (if negative then -(magnitude : Int) else magnitude) := by
  cases negative with
  | false =>
      refine ⟨finite, unsigned.trans (decide_eq_false ?_).symm, ?_⟩
      · exact Int.not_lt.mpr (Int.natCast_nonneg magnitude)
      · rw [if_neg Bool.false_ne_true, Int.natAbs_natCast]
        exact near
  | true =>
      rw [if_pos rfl]
      constructor
      · rw [signed, if_pos rfl, isFinite_negate, finite]
      · rw [signed, if_pos rfl, Double.isNegative_negate, unsigned, decide_eq_true (by omega)]
        rfl
      · rw [signed, if_pos rfl, Double.magnitude_negate, Int.natAbs_neg, Int.natAbs_natCast]
        exact near

theorem readAsWhole_wholeNumber (negative : Bool) {magnitude : Nat}
    (fits : magnitude ≤ greatestSignificand) :
    ReadAsWhole (if negative then -(magnitude : Int) else magnitude)
      (wholeNumber negative magnitude) := by
  have greatest : greatestSignificand = 18446744073709551615 := by decide
  have half : twoTo 63 = 9223372036854775808 := by decide
  have whole : twoTo 64 = 18446744073709551616 := by decide
  rw [greatest] at fits
  cases negative with
  | false =>
      rw [if_neg Bool.false_ne_true, wholeNumber, if_pos (by decide)]
      refine .exact ?_
      rw [Numeral.InRange, half, whole]
      omega
  | true =>
      rw [if_pos rfl, wholeNumber, if_neg (by decide)]
      split
      · rename_i beyond
        simp only [Bool.or_eq_true, decide_eq_true_eq, half] at beyond
        rcases beyond with rfl | beyond
        · have zero : (Double.ofInt ((0 : Nat) : Int)).negate = .zero true := by decide +kernel
          rw [zero]
          exact .minusZero (by decide)
        · have near : (Double.ofInt magnitude).NearWhole magnitude :=
            Double.nearWhole_ofInt (by omega) (by rw [whole, Int.natAbs_natCast]; omega)
          refine .rounded ?_ (nearWhole_signed true (by omega) near.finite ?_ near.near)
          · rw [Numeral.InRange, half, whole]
            omega
          · exact near.sign.trans (decide_eq_false (by omega))
      · rename_i within
        simp only [Bool.or_eq_true, decide_eq_true_eq, not_or, half] at within
        refine .exact ?_
        rw [Numeral.InRange, half, whole]
        omega

theorem exists_scaled_of_scaledNumber {negative : Bool} {significand : Nat} {exponent : Int}
    {n : Numeral} {after : Source}
    (read : scaledNumber negative significand exponent rest = .ok (n, after)) :
    ∃ x, scaled? significand exponent = some x ∧ n = .double (signed negative x) := by
  unfold scaledNumber at read
  split at read
  · rename_i x scaled
    exact ⟨x, scaled, (Prod.mk.inj (Except.ok.inj read)).1.symm⟩
  · cases read

/-- What is read of the digits of a whole number is the number, or near to it. -/
theorem readAsWhole_of_numeral {negative : Bool} {magnitude : Nat} (stops : StopsNumber rest)
    {n : Numeral} {after : Source}
    (read : numeral negative ((digitChars magnitude).map .char ++ rest) = .ok (n, after)) :
    ReadAsWhole (if negative then -(magnitude : Int) else magnitude) n := by
  obtain ⟨significand, extra, leftOut, written⟩ := exists_numeral_eq negative magnitude stops
  rw [written, wholeOrScaled] at read
  split at read
  · rename_i none
    obtain ⟨rfl, _⟩ := Prod.mk.inj (Except.ok.inj read)
    subst none
    obtain rfl : significand = magnitude := by
      have low := leftOut.low
      have high := leftOut.high
      rw [show tenTo 0 = 1 from rfl] at low high
      omega
    exact readAsWhole_wholeNumber negative leftOut.fits
  · rename_i some
    obtain ⟨x, scaled, rfl⟩ := exists_scaled_of_scaledNumber read
    obtain ⟨finite, unsigned, near⟩ := leftOut.near_of_scaled? some scaled
    have beyond := (leftOut.full.resolve_left some).2
    have positive : 0 < magnitude := Nat.lt_of_le_of_lt (Nat.zero_le _) beyond
    refine .rounded ?_ (nearWhole_signed negative positive finite unsigned near)
    have greatest : greatestSignificand = 18446744073709551615 := by decide
    have half : twoTo 63 = 9223372036854775808 := by decide
    have whole : twoTo 64 = 18446744073709551616 := by decide
    rw [greatest] at beyond
    rw [Numeral.InRange, half, whole]
    split <;> omega

/-- What is read of a text that starts with a whole number is the number, or near to it. -/
theorem exists_readAsWhole {text : Source} {n : Int} (whole : WholeAt text n) {bound depth : Nat}
    {read : Json} {after : Source} (given : value (bound + 1) depth text = .ok (read, after)) :
    ∃ m, read = .number m ∧ ReadAsWhole n m := by
  obtain ⟨negative, magnitude, rest, stops, rfl, start⟩ := whole
  have read_there : value (bound + 1) depth (skipBlanks text) = .ok (read, after) := by
    rw [← given, value, value, skipBlanks_skipBlanks]
  rw [start] at read_there
  suffices number : ∃ m, read = .number m ∧
      numeral negative ((digitChars magnitude).map .char ++ rest) = .ok (m, after) by
    obtain ⟨m, rfl, digits⟩ := number
    exact ⟨m, rfl, readAsWhole_of_numeral stops digits⟩
  cases negative with
  | true =>
      rw [if_pos rfl, List.singleton_append, List.map_cons, List.cons_append,
        value_minus] at read_there
      obtain ⟨⟨m, last⟩, digits, same⟩ := (bind_eq_ok_iff _ _ _).mp read_there
      obtain ⟨rfl, rfl⟩ := Prod.mk.inj (Except.ok.inj same)
      exact ⟨m, rfl, digits⟩
  | false =>
      obtain ⟨c, chars, written⟩ : ∃ c chars, digitChars magnitude = c :: chars :=
        List.exists_cons_of_ne_nil Nat.toDigits_ne_nil
      have digit : c.isDigit = true := Nat.isDigit_of_mem_toDigits (b := 10) (n := magnitude)
        (by decide) (by decide) (show c ∈ digitChars magnitude from written ▸ List.mem_cons_self)
      rw [if_neg Bool.false_ne_true, List.nil_append] at read_there
      rw [written, List.map_cons, List.cons_append] at read_there ⊢
      rw [value_digit digit] at read_there
      obtain ⟨⟨m, last⟩, digits, same⟩ := (bind_eq_ok_iff _ _ _).mp read_there
      obtain ⟨rfl, rfl⟩ := Prod.mk.inj (Except.ok.inj same)
      exact ⟨m, rfl, digits⟩

end RowFilter.Json
