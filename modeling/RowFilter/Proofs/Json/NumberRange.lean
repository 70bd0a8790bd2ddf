import RowFilter.Proofs.Json.Numerals
import RowFilter.Proofs.Number.Rounding

/-!
# The numbers that are read

What a number of a document is read as is a whole number of 64 bits, with or without sign, or a
finite double. A number out of this range is a fault, or was rounded to a double.
-/

namespace RowFilter.Json

open Number

/-- Whether a number is a whole number of 64 bits, with or without sign, or a finite double. -/
def Numeral.InRange : Numeral → Prop
  | .integer n => -(twoTo 63 : Int) ≤ n ∧ n < (twoTo 64 : Int)
  | .double x => x.isFinite = true

/-- Whether a reader of numbers gives numbers in range only. -/
def GivesInRange (reader : Source → Attempt (Numeral × Source)) : Prop :=
  ∀ {text n after}, reader text = .ok (n, after) → n.InRange

theorem isSmall_divideByPower {x : Double} (small : x.IsSmall) {n : Nat} (positive : 0 < n)
    (bound : Nat) : (divideByPower bound x n).IsSmall := by
  have divided : ∀ {x : Double}, x.IsSmall → ∀ {n : Nat}, 0 < n →
      (x.dividedBy (powerOfTen n)).IsSmall := by
    intro x small n positive
    refine small.dividedBy (Double.le_magnitude_ofInt ?_)
    calc
      2 ≤ tenTo 1 := by decide
      _ ≤ tenTo n := tenTo_le_tenTo positive
  induction bound generalizing x n with
  | zero => exact divided small positive
  | succ bound ih =>
      rw [divideByPower]
      split
      · exact divided small positive
      · rename_i many
        split
        · exact small
        · exact ih (divided small (by decide)) (Nat.sub_pos_of_lt (Nat.lt_of_not_le many))

theorem isFinite_of_scaled? {significand : Nat} (le : significand ≤ greatestSignificand)
    {exponent : Int} {x : Double} (scaled : scaled? significand exponent = some x) :
    x.isFinite = true := by
  have small : (Double.ofInt significand).IsSmall :=
    Double.isSmall_ofInt (Nat.lt_of_le_of_lt le (by decide))
  unfold scaled? at scaled
  dsimp only at scaled
  split at scaled
  · rename_i negative
    obtain rfl := Option.some.inj scaled
    exact (isSmall_divideByPower small (by omega) _).isFinite
  · split at scaled
    · obtain rfl := Option.some.inj scaled
      exact small.isFinite
    · split at scaled
      · cases scaled
      · split at scaled
        · rename_i finite
          obtain rfl := Option.some.inj scaled
          exact finite
        · cases scaled

theorem isFinite_negate (x : Double) : x.negate.isFinite = x.isFinite := by
  rw [Double.isFinite, Double.negate, Double.magnitudeBits_ofParts x.magnitudeBits_lt]
  rfl

variable {negative : Bool} {significand : Nat}

theorem givesInRange_scaledNumber (le : significand ≤ greatestSignificand) (exponent : Int) :
    GivesInRange (scaledNumber negative significand exponent) := by
  intro text n after given
  unfold scaledNumber at given
  split at given
  · rename_i x scaled
    obtain ⟨rfl, _⟩ := Prod.mk.inj (Except.ok.inj given)
    have finite := isFinite_of_scaled? le scaled
    rw [Numeral.InRange, signed]
    split
    · rw [isFinite_negate, finite]
    · exact finite
  · cases given

theorem givesInRange_unsignedExponent (le : significand ≤ greatestSignificand) (start : Int)
    (below : Bool) : GivesInRange (unsignedExponent negative significand start below) := by
  intro text n after given
  unfold unsignedExponent at given
  split at given
  · cases given
  · split at given
    · cases given
    · split at given
      · exact givesInRange_scaledNumber le _ given
      · split at given
        · cases given
        · obtain ⟨rfl, _⟩ := Prod.mk.inj (Except.ok.inj given)
          exact (Double.isSmall_zero negative).isFinite

theorem givesInRange_exponentPart (le : significand ≤ greatestSignificand) (start : Int) :
    GivesInRange (exponentPart negative significand start) := by
  intro text n after given
  cases text with
  | nil => cases given
  | cons symbol text =>
      rw [exponentPart_cons] at given
      split_ifs at given
      · exact givesInRange_unsignedExponent le start false given
      · exact givesInRange_unsignedExponent le start true given
      · exact givesInRange_unsignedExponent le start false given

theorem givesInRange_exponentOrEnd (le : significand ≤ greatestSignificand) (exponent : Int) :
    GivesInRange (exponentOrEnd negative significand exponent) := by
  intro text n after given
  cases text with
  | nil => exact givesInRange_scaledNumber le exponent given
  | cons symbol text =>
      rw [exponentOrEnd_cons] at given
      split_ifs at given
      · exact givesInRange_exponentPart le exponent given
      · exact givesInRange_scaledNumber le exponent given

theorem givesInRange_fractionPart (le : significand ≤ greatestSignificand) (exponent : Int) :
    GivesInRange (fractionPart negative significand exponent) := by
  intro text n after given
  unfold fractionPart at given
  dsimp only at given
  split at given
  · cases given
  · exact givesInRange_exponentOrEnd (takeDigits_le le text) _ given

theorem inRange_wholeNumber (le : significand ≤ greatestSignificand) (negative : Bool) :
    (wholeNumber negative significand).InRange := by
  have greatest : greatestSignificand = 18446744073709551615 := by decide
  have half : twoTo 63 = 9223372036854775808 := by decide
  have whole : twoTo 64 = 18446744073709551616 := by decide
  unfold wholeNumber
  split
  · rw [Numeral.InRange, half, whole]
    omega
  · split
    · rw [Numeral.InRange, isFinite_negate]
      exact (Double.isSmall_ofInt (Nat.lt_of_le_of_lt le (by decide))).isFinite
    · rename_i within
      simp only [Bool.or_eq_true, decide_eq_true_eq, not_or] at within
      rw [Numeral.InRange, half, whole]
      omega

theorem givesInRange_wholeOrScaled (le : significand ≤ greatestSignificand) (extra : Nat) :
    GivesInRange (wholeOrScaled negative significand extra) := by
  intro text n after given
  unfold wholeOrScaled at given
  split at given
  · obtain ⟨rfl, _⟩ := Prod.mk.inj (Except.ok.inj given)
    exact inRange_wholeNumber le negative
  · exact givesInRange_scaledNumber le _ given

theorem givesInRange_afterWhole (le : significand ≤ greatestSignificand) (extra : Nat) :
    GivesInRange (afterWhole negative significand extra) := by
  intro text n after given
  cases text with
  | nil => exact givesInRange_wholeOrScaled le extra given
  | cons symbol text =>
      rw [afterWhole_cons] at given
      split_ifs at given
      · exact givesInRange_fractionPart le _ given
      · exact givesInRange_exponentPart le _ given
      · exact givesInRange_wholeOrScaled le _ given

theorem digit?_le {symbol : Text.Symbol} {digit : Nat} (found : digit? symbol = some digit) :
    digit ≤ greatestSignificand := by
  cases symbol with
  | malformed octets => cases found
  | char c => exact Nat.le_trans (Nat.le_of_lt (digitValue?_lt_ten found)) (by decide)

/-- A number that was read is in range. -/
theorem givesInRange_numeral (negative : Bool) : GivesInRange (numeral negative) := by
  intro text n after given
  cases text with
  | nil => cases given
  | cons symbol text =>
      rw [numeral_cons] at given
      split at given
      · cases given
      · rename_i digit found
        split at given
        · split at given
          · cases given
          · exact givesInRange_afterWhole (Nat.zero_le _) 0 given
        · exact givesInRange_afterWhole (takeDigits_le (digit?_le found) text) _ given

end RowFilter.Json
