import RowFilter.Proofs.Number.Doubles

/-!
# Bounds on rounded numbers

The bits of a double count the representable numbers in order, and a power of two is representable.
So a ratio below a power of two is rounded to at most that power, and one from a power of two on to
no less. Bounds are given on the units of a ratio, of which there are two to the 1074 in one.
-/

namespace RowFilter.Number

theorem twoTo_add (m n : Nat) : twoTo (m + n) = twoTo m * twoTo n := Nat.pow_add 2 m n

theorem twoTo_lt_twoTo {m n : Nat} (lt : m < n) : twoTo m < twoTo n :=
  Nat.pow_lt_pow_right (by decide) lt

theorem twoTo_le_twoTo {m n : Nat} (le : m ≤ n) : twoTo m ≤ twoTo n :=
  Nat.pow_le_pow_right (by decide) le

theorem nearestEven_le (n d : Nat) : nearestEven n d ≤ n / d + 1 := by
  rw [nearestEven]
  generalize n / d = quotient
  split
  · exact Nat.le_succ quotient
  · exact Nat.le_refl _
  · exact Nat.add_le_add_left (Nat.le_of_lt_succ (Nat.mod_lt _ (by decide))) quotient

theorem le_nearestEven (n d : Nat) : n / d ≤ nearestEven n d := by
  rw [nearestEven]
  generalize n / d = quotient
  split
  · exact Nat.le_refl quotient
  · exact Nat.le_succ quotient
  · exact Nat.le_add_right _ _

theorem twoTo_dvd_twoTo {m n : Nat} (le : m ≤ n) : twoTo m ∣ twoTo n := Nat.pow_dvd_pow 2 le

/-- A number is less than twice the power of two that its logarithm names. -/
theorem lt_twoTo_log2 (n : Nat) : n < twoTo (n.log2 + 1) := Nat.lt_log2_self

theorem twoTo_log2_le {n : Nat} (positive : n ≠ 0) : twoTo n.log2 ≤ n := Nat.log2_self_le positive

namespace BinaryFormat

variable {k bits n d : Nat}

theorem units_eq (bits : Nat) :
    binary64.units bits =
      if bits / twoTo 52 = 0 then bits % twoTo 52
      else (twoTo 52 + bits % twoTo 52) * twoTo (bits / twoTo 52 - 1) := rfl

/-- The bits of a double stand for a power of two where its fraction is zero. -/
theorem units_le (le : bits ≤ (k + 1) * twoTo 52) : binary64.units bits ≤ twoTo (k + 52) := by
  have exponent : bits / twoTo 52 ≤ k + 1 := Nat.div_le_of_le_mul (Nat.mul_comm _ _ ▸ le)
  have whole := Nat.div_add_mod bits (twoTo 52)
  have fraction := Nat.mod_lt bits (twoTo_pos 52)
  rw [units_eq]
  split
  · exact Nat.le_trans (Nat.le_of_lt fraction) (twoTo_le_twoTo (Nat.le_add_left 52 k))
  · rename_i nonzero
    generalize bits / twoTo 52 = e at exponent whole nonzero
    generalize bits % twoTo 52 = r at whole fraction
    rcases Nat.lt_or_eq_of_le exponent with below | rfl
    · calc
        (twoTo 52 + r) * twoTo (e - 1) ≤ twoTo 53 * twoTo (e - 1) :=
          Nat.mul_le_mul_right _ (by
            have doubled : twoTo 53 = twoTo 52 + twoTo 52 := by decide
            omega)
        _ = twoTo (53 + (e - 1)) := (twoTo_add _ _).symm
        _ ≤ twoTo (k + 52) := twoTo_le_twoTo (by omega)
    · have none : r = 0 := by
        rw [Nat.mul_comm] at whole
        omega
      rw [none, Nat.add_zero, Nat.add_sub_cancel, ← twoTo_add, Nat.add_comm]

theorem le_units (le : (k + 1) * twoTo 52 ≤ bits) : twoTo (k + 52) ≤ binary64.units bits := by
  have exponent : k + 1 ≤ bits / twoTo 52 := (Nat.le_div_iff_mul_le (twoTo_pos 52)).mpr le
  rw [units_eq, if_neg (by omega)]
  calc
    twoTo (k + 52) = twoTo 52 * twoTo k := by rw [Nat.add_comm, twoTo_add]
    _ ≤ (twoTo 52 + bits % twoTo 52) * twoTo (bits / twoTo 52 - 1) :=
      Nat.mul_le_mul (Nat.le_add_right _ _) (twoTo_le_twoTo (by omega))

/-- The power of two by which the doubles near a ratio are spaced. -/
def spacing (n d : Nat) : Nat := (n * twoTo binary64.scale / d).log2 - 52

/-- The number of spacings in a rounded ratio. -/
def significand (n d : Nat) : Nat :=
  nearestEven (n * twoTo binary64.scale) (d * twoTo (spacing n d))

theorem ofRatio_eq (n d : Nat) :
    binary64.ofRatio n d =
      min (spacing n d * twoTo 52 + significand n d) (2047 * twoTo 52) := rfl

theorem significand_le (n d : Nat) : significand n d ≤ twoTo 53 := by
  refine Nat.le_trans (nearestEven_le _ _) ?_
  rw [← Nat.div_div_eq_div_mul, spacing]
  generalize n * twoTo binary64.scale / d = q
  refine Nat.succ_le_of_lt ((Nat.div_lt_iff_lt_mul (twoTo_pos _)).mpr
    (Nat.lt_of_lt_of_le (lt_twoTo_log2 q) ?_))
  rw [← twoTo_add]
  exact twoTo_le_twoTo (by omega)

/-- Ratios that are not less than the least normal number fill the significand. -/
theorem le_significand (large : twoTo 52 ≤ n * twoTo binary64.scale / d) :
    twoTo 52 ≤ significand n d := by
  refine Nat.le_trans ?_ (le_nearestEven _ _)
  rw [← Nat.div_div_eq_div_mul, spacing]
  generalize n * twoTo binary64.scale / d = q at large ⊢
  have nonzero : q ≠ 0 := Nat.ne_of_gt (Nat.lt_of_lt_of_le (twoTo_pos _) large)
  have spaced : 52 ≤ q.log2 := (Nat.le_log2 nonzero).mpr large
  refine (Nat.le_div_iff_mul_le (twoTo_pos _)).mpr (Nat.le_trans ?_ (twoTo_log2_le nonzero))
  rw [← twoTo_add]
  exact twoTo_le_twoTo (by omega)

theorem spacing_le (positive : 0 < k) (small : n * twoTo binary64.scale / d < twoTo (k + 52)) :
    spacing n d + 1 ≤ k := by
  rw [spacing]
  generalize n * twoTo binary64.scale / d = q at small ⊢
  by_cases zero : q = 0
  · rw [zero, Nat.log2_zero]
    omega
  · have below : q.log2 < k + 52 := (Nat.log2_lt zero).mpr small
    omega

theorem twoTo_spacing_le (spaced : 0 < spacing n d) :
    twoTo (spacing n d + 52) ≤ n * twoTo binary64.scale / d := by
  rw [spacing] at spaced ⊢
  generalize n * twoTo binary64.scale / d = q at spaced ⊢
  have nonzero : q ≠ 0 := by
    rintro rfl
    rw [Nat.log2_zero] at spaced
    omega
  exact (Nat.le_log2 nonzero).mp (by omega)

theorem le_spacing (large : twoTo (k + 52) ≤ n * twoTo binary64.scale / d) :
    k ≤ spacing n d := by
  rw [spacing]
  generalize n * twoTo binary64.scale / d = q at large ⊢
  have nonzero : q ≠ 0 := Nat.ne_of_gt (Nat.lt_of_lt_of_le (twoTo_pos _) large)
  exact Nat.le_sub_of_add_le ((Nat.le_log2 nonzero).mpr large)

/-- A ratio below a power of two is rounded to at most that power. -/
theorem ofRatio_le (positive : 0 < k) (small : n * twoTo binary64.scale / d < twoTo (k + 52)) :
    binary64.ofRatio n d ≤ (k + 1) * twoTo 52 := by
  have doubled : twoTo 53 = 2 * twoTo 52 := by decide
  have bound := significand_le n d
  calc
    binary64.ofRatio n d ≤ spacing n d * twoTo 52 + significand n d := Nat.min_le_left _ _
    _ ≤ spacing n d * twoTo 52 + 2 * twoTo 52 := by omega
    _ = (spacing n d + 1 + 1) * twoTo 52 := (Nat.add_mul _ _ _).symm
    _ ≤ (k + 1) * twoTo 52 := Nat.mul_le_mul_right _ (Nat.succ_le_succ (spacing_le positive small))

/-- A ratio from a power of two on is rounded to no less. -/
theorem le_ofRatio (representable : k + 1 ≤ 2047)
    (large : twoTo (k + 52) ≤ n * twoTo binary64.scale / d) :
    (k + 1) * twoTo 52 ≤ binary64.ofRatio n d := by
  rw [ofRatio_eq]
  refine Nat.le_min.mpr ⟨?_, Nat.mul_le_mul_right _ representable⟩
  have fills := le_significand (Nat.le_trans (twoTo_le_twoTo (Nat.le_add_left 52 k)) large)
  calc
    (k + 1) * twoTo 52 = k * twoTo 52 + twoTo 52 := Nat.succ_mul _ _
    _ ≤ spacing n d * twoTo 52 + significand n d :=
      Nat.add_le_add (Nat.mul_le_mul_right _ (le_spacing large)) fills

end BinaryFormat

namespace Double

variable {x y : Double} {n d : Nat}

theorem scale_eq : binary64.scale = 1074 := by decide

theorem magnitudeBits_lt (x : Double) : x.magnitudeBits < twoTo 63 := Nat.mod_lt _ (twoTo_pos 63)

theorem magnitudeBits_ofParts {magnitude : Nat} (lt : magnitude < twoTo 63) (negative : Bool) :
    (ofParts negative magnitude).magnitudeBits = magnitude := by
  have half : twoTo 63 = 9223372036854775808 := by decide
  rw [half] at lt
  rw [magnitudeBits, ofParts, half]
  cases negative with
  | true => simp only [if_true, UInt64.toNat_ofNat']; omega
  | false => simp only [Bool.false_eq_true, if_false, UInt64.toNat_ofNat']; omega

theorem magnitudeBits_ofRatio (negative : Bool) (n d : Nat) :
    (ofRatio negative n d).magnitudeBits = binary64.ofRatio n d := by
  refine magnitudeBits_ofParts (Nat.lt_of_le_of_lt (Nat.min_le_right _ _) ?_) negative
  decide

/-- Whether a double lies between plus and minus two to the 64, both included. -/
def IsSmall (x : Double) : Prop := x.magnitudeBits ≤ 1087 * twoTo 52

theorem IsSmall.isFinite (small : x.IsSmall) : x.isFinite = true := by
  have beyond : 1087 * twoTo 52 < binary64.infinity := by decide
  exact decide_eq_true (Nat.lt_of_le_of_lt small beyond)

theorem isSmall_zero (negative : Bool) : (zero negative).IsSmall := by
  rw [IsSmall, zero, magnitudeBits_ofParts (twoTo_pos 63)]
  exact Nat.zero_le _

theorem isSmall_ofInt {n : Int} (lt : n.natAbs < twoTo 64) : (ofInt n).IsSmall := by
  rw [IsSmall, ofInt, magnitudeBits_ofRatio]
  refine BinaryFormat.ofRatio_le (k := 1086) (by decide) ?_
  rw [Nat.div_one, scale_eq]
  calc
    n.natAbs * twoTo 1074 < twoTo 64 * twoTo 1074 := Nat.mul_lt_mul_of_pos_right lt (twoTo_pos _)
    _ = twoTo (1086 + 52) := (twoTo_add 64 1074).symm

/-- A double from two on has twice the units of one at least. -/
theorem le_magnitude_ofInt {n : Nat} (le : 2 ≤ n) : twoTo 1075 ≤ (ofInt n).magnitude := by
  rw [magnitude, ofInt, magnitudeBits_ofRatio]
  refine BinaryFormat.le_units (k := 1023) (BinaryFormat.le_ofRatio (by decide) ?_)
  rw [Nat.div_one, scale_eq, Int.natAbs_natCast]
  calc
    twoTo (1023 + 52) = twoTo 1 * twoTo 1074 := twoTo_add 1 1074
    _ ≤ n * twoTo 1074 := Nat.mul_le_mul_right _ le

/-- Dividing a small double by two or more leaves a small one. -/
theorem IsSmall.dividedBy (small : x.IsSmall) (le : twoTo 1075 ≤ y.magnitude) :
    (x.dividedBy y).IsSmall := by
  rw [IsSmall, Double.dividedBy, magnitudeBits_ofRatio]
  refine BinaryFormat.ofRatio_le (k := 1086) (by decide) ?_
  have dividend : x.magnitude ≤ twoTo (1086 + 52) := BinaryFormat.units_le small
  rw [Nat.div_lt_iff_lt_mul (Nat.lt_of_lt_of_le (twoTo_pos _) le), scale_eq]
  calc
    x.magnitude * twoTo 1074 ≤ twoTo (1086 + 52) * twoTo 1074 := Nat.mul_le_mul_right _ dividend
    _ < twoTo (1086 + 52) * twoTo 1075 :=
      Nat.mul_lt_mul_of_pos_left (twoTo_lt_twoTo (by decide)) (twoTo_pos _)
    _ ≤ twoTo (1086 + 52) * y.magnitude := Nat.mul_le_mul_left _ le

end Double

end RowFilter.Number
