import Mathlib.Order.Monotone.Basic
import RowFilter.Proofs.Number.Rounding

/-!
# Nearest doubles

The units of a rounded ratio are a significand times the power of two by which the doubles near it
are spaced. So rounding keeps what such a double already is, keeps the order of two numbers as far
as it keeps them apart, and is off by half a spacing at most.
-/

namespace RowFilter.Number

variable {n m d : Nat}

/-! ### Numbers that are near to each other -/

/-- Whether two numbers differ by a factor of `b / a` at most. -/
def Near (a b x y : Nat) : Prop := a * x ≤ b * y ∧ a * y ≤ b * x

namespace Near

variable {a b c e x y z w : Nat}

theorem refl (le : a ≤ b) (x : Nat) : Near a b x x :=
  ⟨Nat.mul_le_mul_right x le, Nat.mul_le_mul_right x le⟩

theorem trans (first : Near a b x y) (second : Near c e y z) : Near (a * c) (b * e) x z := by
  have compose : ∀ {a b c e x y z : Nat}, a * x ≤ b * y → c * y ≤ e * z →
      a * c * x ≤ b * e * z := by
    intro a b c e x y z one two
    calc
      a * c * x = c * (a * x) := by rw [Nat.mul_right_comm, Nat.mul_comm]
      _ ≤ c * (b * y) := Nat.mul_le_mul_left c one
      _ = b * (c * y) := Nat.mul_left_comm c b y
      _ ≤ b * (e * z) := Nat.mul_le_mul_left b two
      _ = b * e * z := (Nat.mul_assoc b e z).symm
  refine ⟨compose first.1 second.1, ?_⟩
  rw [Nat.mul_comm a, Nat.mul_comm b]
  exact compose second.2 first.2

theorem mul (first : Near a b x y) (second : Near c e z w) :
    Near (a * c) (b * e) (x * z) (y * w) := by
  refine ⟨?_, ?_⟩ <;> rw [Nat.mul_mul_mul_comm, Nat.mul_mul_mul_comm b]
  · exact Nat.mul_le_mul first.1 second.1
  · exact Nat.mul_le_mul first.2 second.2

theorem of_mul_right (positive : 0 < c) (near : Near a b (x * c) (y * c)) : Near a b x y := by
  rw [Near, ← Nat.mul_assoc, ← Nat.mul_assoc, ← Nat.mul_assoc, ← Nat.mul_assoc] at near
  exact ⟨Nat.le_of_mul_le_mul_right near.1 positive, Nat.le_of_mul_le_mul_right near.2 positive⟩

theorem mul_right (near : Near a b x y) (c : Nat) : Near a b (x * c) (y * c) := by
  rw [Near, ← Nat.mul_assoc, ← Nat.mul_assoc, ← Nat.mul_assoc, ← Nat.mul_assoc]
  exact ⟨Nat.mul_le_mul_right c near.1, Nat.mul_le_mul_right c near.2⟩

/-- The factor may be made greater. -/
theorem mono (near : Near a b x y) (positive : 0 < a) (wider : b * c ≤ e * a) : Near c e x y := by
  have scaled : ∀ {x y : Nat}, a * x ≤ b * y → c * x ≤ e * y := by
    intro x y le
    refine Nat.le_of_mul_le_mul_left ?_ positive
    calc
      a * (c * x) = c * (a * x) := Nat.mul_left_comm a c x
      _ ≤ c * (b * y) := Nat.mul_le_mul_left c le
      _ = b * c * y := by rw [Nat.mul_left_comm, Nat.mul_assoc]
      _ ≤ e * a * y := Nat.mul_le_mul_right y wider
      _ = a * (e * y) := by rw [Nat.mul_comm e, Nat.mul_assoc]
  exact ⟨scaled near.1, scaled near.2⟩

/-- Numbers half a spacing apart are near where there are two to the 52 spacings. -/
theorem of_spacing (above : 2 * x ≤ 2 * y + e) (below : 2 * y ≤ 2 * x + e)
    (narrow : twoTo 52 * e ≤ y) : Near (twoTo 53 - 1) (twoTo 53) x y := by
  have spacings : twoTo 52 = 4503599627370496 := by decide
  have doubled : twoTo 53 = 9007199254740992 := by decide
  rw [spacings] at narrow
  rw [Near, doubled]
  omega

end Near

/-! ### The whole number nearest to a ratio -/

theorem nearestEven_mul (m : Nat) (positive : 0 < d) : nearestEven (m * d) d = m := by
  have none : compare (2 * 0) d = .lt := Nat.compare_eq_lt.mpr positive
  rw [nearestEven, Nat.mul_mod_left, Nat.mul_div_cancel _ positive, none]

theorem two_mul_nearestEven_le (n d : Nat) : 2 * (nearestEven n d * d) ≤ 2 * n + d := by
  have whole := Nat.div_add_mod n d
  rw [nearestEven]
  rw [Nat.mul_comm] at whole
  generalize n / d = quotient at whole ⊢
  split
  · omega
  · rename_i above
    have more := Nat.compare_eq_gt.mp above
    rw [Nat.add_mul]
    omega
  · rename_i tie
    have half := Nat.compare_eq_eq.mp tie
    have parity : quotient % 2 * d ≤ 1 * d :=
      Nat.mul_le_mul_right _ (Nat.le_of_lt_succ (Nat.mod_lt _ (by decide)))
    rw [Nat.add_mul]
    omega

theorem two_mul_le_nearestEven (n : Nat) (positive : 0 < d) :
    2 * n ≤ 2 * (nearestEven n d * d) + d := by
  have whole := Nat.div_add_mod n d
  have rest := Nat.mod_lt n positive
  rw [nearestEven]
  rw [Nat.mul_comm] at whole
  generalize n / d = quotient at whole ⊢
  split
  · rename_i below
    have less := Nat.compare_eq_lt.mp below
    omega
  · rw [Nat.add_mul]
    omega
  · rename_i tie
    have half := Nat.compare_eq_eq.mp tie
    rw [Nat.add_mul]
    omega

theorem nearestEven_mono (d : Nat) (le : n ≤ m) : nearestEven n d ≤ nearestEven m d := by
  rcases Nat.lt_or_eq_of_le (Nat.div_le_div_right (c := d) le) with below | same
  · exact (nearestEven_le n d).trans (Nat.le_trans below (le_nearestEven m d))
  · have rest : n % d ≤ m % d := by
      have first := Nat.div_add_mod n d
      have second := Nat.div_add_mod m d
      rw [same] at first
      omega
    rw [nearestEven, nearestEven, same]
    split <;> split <;> simp only [Nat.compare_eq_lt, Nat.compare_eq_gt, Nat.compare_eq_eq] at * <;>
      omega

namespace BinaryFormat

variable {s bits : Nat}

/-! ### The units of bits -/

/-- A significand and an exponent, which may differ from those of the bits by one carry. -/
theorem units_add (le : m ≤ twoTo 53) (normal : s = 0 ∨ twoTo 52 ≤ m) :
    binary64.units (s * twoTo 52 + m) = m * twoTo s := by
  have doubled : twoTo 53 = 2 * twoTo 52 := by decide
  have positive := twoTo_pos 52
  generalize half : twoTo 52 = fractions at *
  rw [doubled] at le
  rcases Nat.lt_or_ge m fractions with below | above
  · obtain rfl : s = 0 := normal.resolve_right (Nat.not_le.mpr below)
    rw [units_eq, half, Nat.zero_mul, Nat.zero_add, Nat.div_eq_of_lt below, if_pos rfl,
      Nat.mod_eq_of_lt below]
    exact (Nat.mul_one m).symm
  · obtain ⟨fraction, rfl⟩ := Nat.exists_eq_add_of_le above
    have carried : s * fractions + (fractions + fraction) = fraction + (s + 1) * fractions := by
      rw [Nat.succ_mul]
      omega
    rcases Nat.lt_or_ge fraction fractions with inside | full
    · have exponent : (fraction + (s + 1) * fractions) / fractions = s + 1 := by
        rw [Nat.add_mul_div_right _ _ positive, Nat.div_eq_of_lt inside, Nat.zero_add]
      rw [units_eq, half, carried, exponent, if_neg (Nat.succ_ne_zero s),
        Nat.add_mul_mod_self_right, Nat.mod_eq_of_lt inside, Nat.add_sub_cancel]
    · obtain rfl : fraction = fractions := by omega
      have exponent : (fraction + (s + 1) * fraction) / fraction = s + 2 := by
        rw [Nat.add_mul_div_right _ _ positive, Nat.div_self positive]
        omega
      rw [units_eq, half, carried, exponent, if_neg (Nat.succ_ne_zero _),
        Nat.add_mul_mod_self_right, Nat.mod_self, Nat.add_zero]
      calc
        fraction * twoTo (s + 1) = fraction * (twoTo s * 2) := by rw [twoTo_add s 1]; rfl
        _ = (fraction + fraction) * twoTo s := by
          rw [Nat.mul_comm (twoTo s), ← Nat.mul_assoc, Nat.mul_two]

/-- Bits are a significand short of a carry and an exponent. -/
theorem exists_parts (bits : Nat) :
    ∃ m, m < twoTo 53 ∧ (bits / twoTo 52 - 1 = 0 ∨ twoTo 52 ≤ m) ∧
      bits = (bits / twoTo 52 - 1) * twoTo 52 + m := by
  have doubled : twoTo 53 = 2 * twoTo 52 := by decide
  have whole := Nat.div_add_mod bits (twoTo 52)
  have fraction := Nat.mod_lt bits (twoTo_pos 52)
  rw [Nat.mul_comm] at whole
  cases exponent : bits / twoTo 52 with
  | zero =>
      rw [exponent, Nat.zero_mul] at whole
      exact ⟨bits, by omega, .inl rfl, by simp⟩
  | succ e =>
      rw [exponent, Nat.succ_mul] at whole
      rw [Nat.add_sub_cancel]
      exact ⟨twoTo 52 + bits % twoTo 52, by omega, .inr (Nat.le_add_right _ _), by omega⟩

/-- From bits to the next the units grow by the spacing there. -/
theorem units_succ (bits : Nat) :
    binary64.units (bits + 1) = binary64.units bits + twoTo (bits / twoTo 52 - 1) := by
  obtain ⟨m, below, normal, parts⟩ := exists_parts bits
  generalize bits / twoTo 52 - 1 = s at normal parts ⊢
  rw [parts, Nat.add_assoc, units_add below (normal.imp_right Nat.le_succ_of_le),
    units_add (Nat.le_of_lt below) normal, Nat.succ_mul]

theorem units_lt (bits : Nat) :
    binary64.units bits < twoTo 53 * twoTo (bits / twoTo 52 - 1) := by
  obtain ⟨m, below, normal, parts⟩ := exists_parts bits
  generalize bits / twoTo 52 - 1 = s at normal parts ⊢
  rw [parts, units_add (Nat.le_of_lt below) normal]
  exact Nat.mul_lt_mul_of_pos_right below (twoTo_pos s)

theorem units_strictMono : StrictMono binary64.units := by
  refine strictMono_nat_of_lt_succ fun bits => ?_
  rw [units_succ]
  exact Nat.lt_add_of_pos_right (twoTo_pos _)

/-! ### Rounded ratios -/

theorem units_ofRatio (finite : binary64.ofRatio n d < 2047 * twoTo 52) :
    binary64.units (binary64.ofRatio n d) = significand n d * twoTo (spacing n d) := by
  have fits : spacing n d * twoTo 52 + significand n d < 2047 * twoTo 52 := by
    rw [ofRatio_eq] at finite
    omega
  have normal : spacing n d = 0 ∨ twoTo 52 ≤ significand n d := by
    rcases Nat.lt_or_ge (n * twoTo binary64.scale / d) (twoTo 52) with small | large
    · have below := spacing_le (k := 1) (by decide)
        (Nat.lt_trans small (twoTo_lt_twoTo (show 52 < 1 + 52 by decide)))
      exact .inl (by omega)
    · exact .inr (le_significand large)
  rw [ofRatio_eq, Nat.min_eq_left (Nat.le_of_lt fits), units_add (significand_le n d) normal]

theorem spacing_mono (d : Nat) (le : n ≤ m) : spacing n d ≤ spacing m d := by
  rcases Nat.eq_zero_or_pos (spacing n d) with zero | spaced
  · rw [zero]
    exact Nat.zero_le _
  · exact le_spacing ((twoTo_spacing_le spaced).trans
      (Nat.div_le_div_right (Nat.mul_le_mul_right _ le)))

/-- A greater numerator is not rounded to less. -/
theorem ofRatio_mono (d : Nat) (le : n ≤ m) : binary64.ofRatio n d ≤ binary64.ofRatio m d := by
  rw [ofRatio_eq, ofRatio_eq]
  refine min_le_min_right _ ?_
  rcases Nat.lt_or_eq_of_le (spacing_mono d le) with closer | same
  · have doubled : twoTo 53 = twoTo 52 + twoTo 52 := by decide
    have fills : twoTo 52 ≤ significand m d := by
      refine le_significand (Nat.le_trans (twoTo_le_twoTo (Nat.le_add_left 52 (spacing m d))) ?_)
      exact twoTo_spacing_le (Nat.lt_of_le_of_lt (Nat.zero_le _) closer)
    calc
      spacing n d * twoTo 52 + significand n d
          ≤ spacing n d * twoTo 52 + (twoTo 52 + twoTo 52) :=
        Nat.add_le_add_left (doubled ▸ significand_le n d) _
      _ = (spacing n d + 1) * twoTo 52 + twoTo 52 := by rw [Nat.succ_mul, Nat.add_assoc]
      _ ≤ spacing m d * twoTo 52 + significand m d :=
        Nat.add_le_add (Nat.mul_le_mul_right _ closer) fills
  · rw [significand, significand, same]
    exact Nat.add_le_add_left (nearestEven_mono _ (Nat.mul_le_mul_right _ le)) _

/-- A ratio that is a multiple of the spacing is kept. -/
theorem units_ofRatio_of_dvd (positive : 0 < d) (finite : binary64.ofRatio n d < 2047 * twoTo 52)
    (multiple : d * twoTo (spacing n d) ∣ n * twoTo binary64.scale) :
    binary64.units (binary64.ofRatio n d) * d = n * twoTo binary64.scale := by
  obtain ⟨count, whole⟩ := multiple
  rw [Nat.mul_comm _ count] at whole
  rw [units_ofRatio finite, significand, whole,
    nearestEven_mul _ (Nat.mul_pos positive (twoTo_pos _)), Nat.mul_assoc, Nat.mul_comm d]

/-- A rounded ratio is near to the ratio if it has a full significand. -/
theorem near_ofRatio (positive : 0 < d) (finite : binary64.ofRatio n d < 2047 * twoTo 52)
    (normal : twoTo 52 ≤ n * twoTo binary64.scale / d) :
    Near (twoTo 53 - 1) (twoTo 53) (binary64.units (binary64.ofRatio n d) * d)
      (n * twoTo binary64.scale) := by
  have rounded : binary64.units (binary64.ofRatio n d) * d =
      nearestEven (n * twoTo binary64.scale) (d * twoTo (spacing n d)) *
        (d * twoTo (spacing n d)) := by
    rw [units_ofRatio finite, significand, Nat.mul_assoc, Nat.mul_comm d]
  rw [rounded]
  refine .of_spacing (two_mul_nearestEven_le _ _)
    (two_mul_le_nearestEven _ (Nat.mul_pos positive (twoTo_pos _))) ?_
  have nonzero : n * twoTo binary64.scale / d ≠ 0 :=
    Nat.ne_of_gt (Nat.lt_of_lt_of_le (twoTo_pos 52) normal)
  have spaced : 52 ≤ (n * twoTo binary64.scale / d).log2 := (Nat.le_log2 nonzero).mpr normal
  calc
    twoTo 52 * (d * twoTo (spacing n d)) = twoTo (spacing n d + 52) * d := by
      rw [twoTo_add, Nat.mul_left_comm, Nat.mul_comm d, Nat.mul_comm (twoTo 52)]
    _ = twoTo (n * twoTo binary64.scale / d).log2 * d := by
      rw [spacing, Nat.sub_add_cancel spaced]
    _ ≤ n * twoTo binary64.scale / d * d := Nat.mul_le_mul_right _ (twoTo_log2_le nonzero)
    _ ≤ n * twoTo binary64.scale := Nat.div_mul_le_self _ _

end BinaryFormat

/-! ### Whole numbers as doubles -/

namespace Double

open BinaryFormat

variable {i j : Int}

theorem isNegative_ofParts {magnitude : Nat} (lt : magnitude < twoTo 63) (negative : Bool) :
    (ofParts negative magnitude).isNegative = negative := by
  have half : twoTo 63 = 9223372036854775808 := by decide
  rw [half] at lt
  rw [isNegative, ofParts, half]
  cases negative with
  | true =>
      simp only [if_true, UInt64.toNat_ofNat', decide_eq_true_eq]
      omega
  | false =>
      simp only [Bool.false_eq_true, if_false, UInt64.toNat_ofNat', decide_eq_false_iff_not]
      omega

theorem isNegative_ofRatio (negative : Bool) (n d : Nat) :
    (ofRatio negative n d).isNegative = negative :=
  isNegative_ofParts (Nat.lt_of_le_of_lt (Nat.min_le_right _ _) (by decide)) negative

theorem magnitude_ofRatio (negative : Bool) (n d : Nat) :
    (ofRatio negative n d).magnitude = binary64.units (binary64.ofRatio n d) := by
  rw [magnitude, magnitudeBits_ofRatio]

/-- The units of the double nearest to a number without its sign. -/
def roundedUnits (n : Nat) : Nat := binary64.units (binary64.ofRatio n 1)

theorem units_ofInt (i : Int) :
    (ofInt i).units = if i < 0 then -(roundedUnits i.natAbs : Int) else roundedUnits i.natAbs := by
  rw [units, ofInt, isNegative_ofRatio, magnitude_ofRatio, roundedUnits]
  simp only [decide_eq_true_eq]

theorem magnitude_ofInt (n : Nat) : (ofInt n).magnitude = roundedUnits n :=
  magnitude_ofRatio _ _ _

theorem isNegative_ofInt (n : Nat) : (ofInt n).isNegative = false :=
  (isNegative_ofRatio _ _ _).trans (decide_eq_false (Int.not_lt.mpr (Int.natCast_nonneg n)))

theorem isZero_of_magnitude_pos {x : Double} (positive : 0 < x.magnitude) : x.isZero = false := by
  rw [isZero, beq_eq_false_iff_ne]
  intro zero
  rw [magnitude, zero] at positive
  exact Nat.lt_irrefl _ positive

theorem roundedUnits_mono (le : n ≤ m) : roundedUnits n ≤ roundedUnits m :=
  units_strictMono.monotone (ofRatio_mono 1 le)

theorem roundedUnits_of_lt (small : n < twoTo 53) : roundedUnits n = n * twoTo 1074 := by
  have finite : binary64.ofRatio n 1 < 2047 * twoTo 52 := by
    refine Nat.lt_of_le_of_lt (ofRatio_le (k := 1075) (by decide) ?_) (by decide)
    rw [Nat.div_one, scale_eq, show 1075 + 52 = 53 + 1074 from rfl, twoTo_add]
    exact Nat.mul_lt_mul_of_pos_right small (twoTo_pos _)
  have spaced : spacing n 1 ≤ 1074 := by
    refine Nat.le_of_succ_le_succ (spacing_le (k := 1075) (by decide) ?_)
    rw [Nat.div_one, scale_eq, show 1075 + 52 = 53 + 1074 from rfl, twoTo_add]
    exact Nat.mul_lt_mul_of_pos_right small (twoTo_pos _)
  have kept := units_ofRatio_of_dvd (by decide) finite (by
    rw [Nat.one_mul, scale_eq]
    exact Nat.dvd_mul_left_of_dvd (twoTo_dvd_twoTo spaced) n)
  rw [Nat.mul_one, scale_eq] at kept
  exact kept

theorem le_roundedUnits (large : twoTo 53 ≤ n) : twoTo 53 * twoTo 1074 ≤ roundedUnits n := by
  rw [← twoTo_add]
  refine le_units (k := 1075) (le_ofRatio (by decide) ?_)
  rw [Nat.div_one, scale_eq, show 1075 + 52 = 53 + 1074 from rfl, twoTo_add]
  exact Nat.mul_le_mul_right _ large

theorem roundedUnits_pos (positive : 0 < n) : 0 < roundedUnits n := by
  rcases Nat.lt_or_ge n (twoTo 53) with small | large
  · rw [roundedUnits_of_lt small]
    exact Nat.mul_pos positive (twoTo_pos _)
  · exact Nat.lt_of_lt_of_le (Nat.mul_pos (twoTo_pos _) (twoTo_pos _)) (le_roundedUnits large)

theorem twoTo_le_roundedUnits (positive : 0 < n) : twoTo 1074 ≤ roundedUnits n := by
  have one : roundedUnits 1 = twoTo 1074 := by rw [roundedUnits_of_lt (by decide), Nat.one_mul]
  rw [← one]
  exact roundedUnits_mono positive

/-- A number is near to its double, if it is not beyond the powers of ten that are used. -/
theorem near_roundedUnits (positive : 0 < n) (le : n ≤ tenTo 308) :
    Near (twoTo 53 - 1) (twoTo 53) (roundedUnits n) (n * twoTo 1074) := by
  have finite : binary64.ofRatio n 1 < 2047 * twoTo 52 :=
    Nat.lt_of_le_of_lt (ofRatio_mono 1 le) (by decide +kernel)
  have near := near_ofRatio (by decide) finite (by
    rw [Nat.div_one, scale_eq]
    exact Nat.le_trans (twoTo_le_twoTo (by decide)) (Nat.le_mul_of_pos_left _ positive))
  rwa [Nat.mul_one, scale_eq] at near

/-- A finite product is near to the product of what it is a product of. -/
theorem near_times {x y : Double} (finite : (x.times y).isFinite = true)
    (left : twoTo 1074 ≤ x.magnitude) (right : twoTo 1074 ≤ y.magnitude) :
    Near (twoTo 53 - 1) (twoTo 53) ((x.times y).magnitude * twoTo 1074)
      (x.magnitude * y.magnitude) := by
  rw [times, isFinite, magnitudeBits_ofRatio, decide_eq_true_eq] at finite
  have square : twoTo (2 * binary64.scale) = twoTo 1074 * twoTo 1074 := by
    rw [← twoTo_add, scale_eq]
  have near := near_ofRatio (twoTo_pos _) finite (by
    rw [Nat.le_div_iff_mul_le (twoTo_pos _), square, scale_eq, ← Nat.mul_assoc]
    refine Nat.mul_le_mul_right _ (Nat.mul_le_mul ?_ right)
    exact Nat.le_trans (twoTo_le_twoTo (by decide)) left)
  rw [times, magnitude_ofRatio]
  rw [square, scale_eq, ← Nat.mul_assoc] at near
  rw [square]
  exact near.of_mul_right (twoTo_pos 1074)

/-- The finite product of the doubles of two numbers is near to the product of the numbers: three
roundings are made. -/
theorem near_times_ofInt (finite : ((ofInt n).times (ofInt m)).isFinite = true)
    (left : 0 < n ∧ n ≤ tenTo 308) (right : 0 < m ∧ m ≤ tenTo 308) :
    Near ((twoTo 53 - 1) * ((twoTo 53 - 1) * (twoTo 53 - 1))) (twoTo 53 * (twoTo 53 * twoTo 53))
      ((ofInt n).times (ofInt m)).magnitude (n * m * twoTo 1074) := by
  have product := near_times finite
    (magnitude_ofInt n ▸ twoTo_le_roundedUnits left.1)
    (magnitude_ofInt m ▸ twoTo_le_roundedUnits right.1)
  rw [magnitude_ofInt, magnitude_ofInt] at product
  have factors := (near_roundedUnits left.1 left.2).mul (near_roundedUnits right.1 right.2)
  have whole : n * twoTo 1074 * (m * twoTo 1074) = n * m * twoTo 1074 * twoTo 1074 := by
    generalize twoTo 1074 = one
    ac_rfl
  rw [whole] at factors
  exact (product.trans factors).of_mul_right (twoTo_pos 1074)

theorem isNegative_negate (x : Double) : x.negate.isNegative = !x.isNegative :=
  isNegative_ofParts x.magnitudeBits_lt _

theorem magnitude_negate (x : Double) : x.negate.magnitude = x.magnitude := by
  rw [magnitude, negate, magnitudeBits_ofParts x.magnitudeBits_lt, magnitude]

/-- Whether a double is finite and near to a whole number, with the same sign. -/
structure NearWhole (x : Double) (i : Int) : Prop where
  /-- The double is a number. -/
  finite : x.isFinite = true
  /-- It has the sign of the whole number. -/
  sign : x.isNegative = decide (i < 0)
  /-- Without signs the two are near. -/
  near : Near (twoTo 51 - 1) (twoTo 51) x.magnitude (i.natAbs * twoTo 1074)

/-- The double of a whole number is near to it. -/
theorem nearWhole_ofInt (nonzero : i ≠ 0) (small : i.natAbs < twoTo 64) :
    (ofInt i).NearWhole i where
  finite := (isSmall_ofInt small).isFinite
  sign := isNegative_ofRatio _ _ _
  near := by
    have bounded : i.natAbs ≤ tenTo 308 := Nat.le_trans (Nat.le_of_lt small) (by decide +kernel)
    rw [ofInt, magnitude_ofRatio]
    exact (near_roundedUnits (Int.natAbs_pos.mpr nonzero) bounded).mono (by decide) (by decide)

theorem NearWhole.isZero {x : Double} (near : x.NearWhole i) (nonzero : i ≠ 0) :
    x.isZero = false := by
  have positive : 0 < (twoTo 51 - 1) * (i.natAbs * twoTo 1074) :=
    Nat.mul_pos (by decide) (Nat.mul_pos (Int.natAbs_pos.mpr nonzero) (twoTo_pos _))
  exact isZero_of_magnitude_pos (Nat.pos_of_mul_pos_left (Nat.lt_of_lt_of_le positive near.near.2))

/-- Whole numbers of 310 digits and more are not near to any finite double. -/
theorem NearWhole.natAbs_lt {x : Double} (near : x.NearWhole i) : i.natAbs < tenTo 309 := by
  have finite := near.finite
  rw [isFinite, decide_eq_true_eq] at finite
  have most : x.magnitude ≤ twoTo (2046 + 52) := units_le (Nat.le_of_lt finite)
  rw [← Nat.not_le]
  intro long
  have beyond : twoTo 51 * twoTo (2046 + 52) < (twoTo 51 - 1) * (tenTo 309 * twoTo 1074) := by
    decide +kernel
  refine absurd beyond (Nat.not_lt.mpr ?_)
  calc
    (twoTo 51 - 1) * (tenTo 309 * twoTo 1074) ≤ (twoTo 51 - 1) * (i.natAbs * twoTo 1074) :=
      Nat.mul_le_mul_left _ (Nat.mul_le_mul_right _ long)
    _ ≤ twoTo 51 * x.magnitude := near.near.2
    _ ≤ twoTo 51 * twoTo (2046 + 52) := Nat.mul_le_mul_left _ most

/-- A greater whole number has no smaller double. -/
theorem units_ofInt_mono (le : i ≤ j) : (ofInt i).units ≤ (ofInt j).units := by
  rw [units_ofInt, units_ofInt]
  by_cases first : i < 0 <;> by_cases second : j < 0
  · have order := roundedUnits_mono (show j.natAbs ≤ i.natAbs by omega)
    rw [if_pos first, if_pos second]
    omega
  · rw [if_pos first, if_neg second]
    omega
  · omega
  · have order := roundedUnits_mono (show i.natAbs ≤ j.natAbs by omega)
    rw [if_neg first, if_neg second]
    omega

/-- Doubles of whole numbers with the same value are the same: none is minus zero. -/
theorem ofInt_eq_iff : ofInt i = ofInt j ↔ (ofInt i).units = (ofInt j).units := by
  refine ⟨fun same => by rw [same], fun same => ?_⟩
  rw [units_ofInt, units_ofInt] at same
  have sign : i < 0 ↔ j < 0 := by
    by_cases first : i < 0 <;> by_cases second : j < 0
    · exact iff_of_true first second
    · have positive := roundedUnits_pos (show 0 < i.natAbs by omega)
      rw [if_pos first, if_neg second] at same
      omega
    · have positive := roundedUnits_pos (show 0 < j.natAbs by omega)
      rw [if_neg first, if_pos second] at same
      omega
    · exact iff_of_false first second
  have magnitudes : roundedUnits i.natAbs = roundedUnits j.natAbs := by
    by_cases negative : j < 0
    · rw [if_pos (sign.mpr negative), if_pos negative] at same
      omega
    · rw [if_neg (mt sign.mp negative), if_neg negative] at same
      omega
  rw [ofInt, ofInt, ofRatio, ofRatio, units_strictMono.injective magnitudes,
    decide_eq_decide.mpr sign]

theorem units_ofInt_of_small (small : i.natAbs < twoTo 53) :
    (ofInt i).units = i * (twoTo 1074 : Nat) := by
  rw [units_ofInt, roundedUnits_of_lt small, Int.natCast_mul]
  split
  · rename_i negative
    rw [Int.ofNat_natAbs_of_nonpos (Int.le_of_lt negative), Int.neg_mul, Int.neg_neg]
  · rename_i positive
    rw [Int.natAbs_of_nonneg (Int.not_lt.mp positive)]

/-- Below two to the 53 whole numbers are doubles, and no other whole number is rounded to one of
these. -/
theorem ofInt_eq_ofInt_iff_of_small (small : i.natAbs < twoTo 53) : ofInt i = ofInt j ↔ i = j := by
  refine ⟨fun same => ?_, fun same => by rw [same]⟩
  rw [ofInt_eq_iff] at same
  have one : (twoTo 1074 : Int) ≠ 0 := Int.natCast_ne_zero.mpr (Nat.ne_of_gt (twoTo_pos 1074))
  rcases Nat.lt_or_ge j.natAbs (twoTo 53) with inside | beyond
  · rw [units_ofInt_of_small small, units_ofInt_of_small inside] at same
    exact Int.eq_of_mul_eq_mul_right one same
  · rw [units_ofInt, units_ofInt, roundedUnits_of_lt small] at same
    have below : i.natAbs * twoTo 1074 < twoTo 53 * twoTo 1074 :=
      Nat.mul_lt_mul_of_pos_right small (twoTo_pos 1074)
    have large := le_roundedUnits beyond
    generalize twoTo 53 * twoTo 1074 = bound at below large
    split at same <;> split at same <;> omega

/-- The order of two whole numbers by their doubles: equal where they are rounded to the same, and
else as they are. -/
theorem compare_units_ofInt (i j : Int) :
    compare (ofInt i).units (ofInt j).units = if ofInt i = ofInt j then .eq else compare i j := by
  split
  · rename_i same
    rw [same]
    exact compare_eq_iff_eq.mpr rfl
  · rename_i different
    rw [ofInt_eq_iff] at different
    rcases Int.lt_trichotomy i j with below | same | above
    · have order := lt_of_le_of_ne (units_ofInt_mono (Int.le_of_lt below)) different
      rw [compare_lt_iff_lt.mpr below, compare_lt_iff_lt.mpr order]
    · exact absurd (by rw [same]) different
    · have order := lt_of_le_of_ne (units_ofInt_mono (Int.le_of_lt above)) (Ne.symm different)
      rw [compare_gt_iff_gt.mpr above, compare_gt_iff_gt.mpr order]

end Double

end RowFilter.Number
