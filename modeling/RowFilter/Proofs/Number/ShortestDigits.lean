import RowFilter.Number.Style
import RowFilter.Proofs.Number.Digits
import RowFilter.Proofs.Number.Nearest

/-!
# How near the fewest digits are

The neighbourhood of a double is as wide as the doubles there are apart, and the rows of decimals
that are tried end with one whose steps are smaller. So there is always a decimal to write, and it
lies in the neighbourhood: it is off by less than one part in two to the 53.
-/

namespace RowFilter.Number

/-! ### Decimals on the scale of a neighbourhood -/

/-- The step of a row of decimals with the last digit at ten to the given place, doubled and
scaled. -/
def stepAt (place : Int) : Nat :=
  twoTo (binary64.scale + 1) * tenTo (decimalScale + place).toNat

/-- A decimal, doubled and scaled. -/
def Decimal.point (d : Decimal) : Nat := d.digits * stepAt d.exponent

theorem stepAt_pos (place : Int) : 0 < stepAt place := Nat.mul_pos (twoTo_pos _) (tenTo_pos _)

theorem stepAt_succ {place : Int} (inside : -400 ≤ place) :
    stepAt (place + 1) = 10 * stepAt place := by
  have next : (decimalScale + (place + 1)).toNat = (decimalScale + place).toNat + 1 := by
    rw [decimalScale]
    omega
  rw [stepAt, stepAt, next, tenTo_add, Nat.mul_comm (tenTo _) (tenTo 1), Nat.mul_left_comm]
  rfl

/-- Leaving out trailing zeros changes no decimal, and only makes its exponent greater. -/
theorem stripZeros_point (count : Nat) {d : Decimal} (inside : -400 ≤ d.exponent) :
    (stripZeros count d).point = d.point ∧ d.exponent ≤ (stripZeros count d).exponent := by
  induction count generalizing d with
  | zero => exact ⟨rfl, Int.le_refl _⟩
  | succ count ih =>
      rw [stripZeros]
      split
      · rename_i zero
        have last : d.digits % 10 = 0 := by simpa using zero
        obtain ⟨same, above⟩ := @ih ⟨d.digits / 10, d.exponent + 1⟩ (Int.le_add_one inside)
        refine ⟨same.trans ?_, Int.le_trans (Int.le_add_one (Int.le_refl _)) above⟩
        rw [Decimal.point, Decimal.point, stepAt_succ inside, ← Nat.mul_assoc,
          Nat.div_mul_cancel (Nat.dvd_of_mod_eq_zero last)]
      · exact ⟨rfl, Int.le_refl _⟩

namespace Neighbourhood

variable {near : Neighbourhood} {tie : Tie} {point step digits : Nat}

/-- Whether a point is not outside of a neighbourhood. -/
def Spans (near : Neighbourhood) (point : Nat) : Prop := near.low ≤ point ∧ point ≤ near.high

theorem spans_of_holds (holds : near.holds point = true) : near.Spans point := by
  unfold Neighbourhood.holds at holds
  split at holds <;> simp only [Bool.and_eq_true, decide_eq_true_eq] at holds
  · exact holds
  · exact ⟨Nat.le_of_lt holds.1, Nat.le_of_lt holds.2⟩

theorem outside_of_not_holds (holds : near.holds point = false) :
    point ≤ near.low ∨ near.high ≤ point := by
  unfold Neighbourhood.holds at holds
  split at holds <;>
    simp only [Bool.and_eq_false_iff, decide_eq_false_iff_not] at holds <;> omega

/-- What is picked lies in the neighbourhood. -/
theorem spans_of_pick? (picked : near.pick? tie step = some digits) :
    near.Spans (digits * step) := by
  unfold pick? at picked
  generalize near.value / step = below at picked
  dsimp only at picked
  split at picked
  · cases picked
  · rename_i holds _
    obtain rfl := Option.some.inj picked
    exact spans_of_holds holds
  · rename_i _ holds
    obtain rfl := Option.some.inj picked
    exact spans_of_holds holds
  · rename_i first second
    have either : digits = below ∨ digits = below + 1 := by
      split at picked <;> obtain rfl := Option.some.inj picked
      · exact .inl rfl
      · exact .inr rfl
      · exact .inr rfl
      · omega
    rcases either with rfl | rfl
    · exact spans_of_holds first
    · exact spans_of_holds second

/-- A step that is smaller than the neighbourhood has a multiple in it. -/
theorem isSome_pick? (positive : 0 < step) (inside : near.low < near.value ∧ near.value < near.high)
    (narrow : near.low + step < near.high) : (near.pick? tie step).isSome = true := by
  have below : near.value / step * step ≤ near.value := Nat.div_mul_le_self _ _
  have above : near.value < (near.value / step + 1) * step := Nat.lt_mul_of_div_lt
    (Nat.lt_succ_self _) positive
  unfold pick?
  generalize near.value / step = count at below above
  dsimp only
  split
  · rename_i first second
    -- Two multiples next to each other would lie on both sides of the neighbourhood.
    have low := outside_of_not_holds first
    have high := outside_of_not_holds second
    rw [Nat.succ_mul] at above high
    omega
  · rfl
  · rfl
  · split <;> rfl

end Neighbourhood

/-- If one of the rows has a hit, the decimal that is found lies in the neighbourhood. -/
theorem spans_searchDigits {near : Neighbourhood} {tie : Tie} {left : Nat} {place : Int}
    (inside : left ≤ place + 401)
    (hit : ∃ row : Nat, row < left ∧ (near.pick? tie (stepAt (place - row))).isSome = true) :
    near.Spans (searchDigits near tie left place).point ∧
      place + 1 - left ≤ (searchDigits near tie left place).exponent := by
  induction left generalizing place with
  | zero =>
      obtain ⟨row, below, _⟩ := hit
      exact absurd below (Nat.not_lt_zero row)
  | succ left ih =>
      rw [searchDigits]
      split
      · rename_i digits picked
        have found : near.pick? tie (stepAt place) = some digits := picked
        obtain ⟨same, above⟩ := @stripZeros_point 20 ⟨digits, place⟩ (by dsimp only; omega)
        dsimp only at above
        refine ⟨?_, by omega⟩
        rw [same]
        exact Neighbourhood.spans_of_pick? found
      · rename_i missed
        obtain ⟨row, below, some_hit⟩ := hit
        obtain ⟨less, rfl⟩ : ∃ less, row = less + 1 := by
          refine ⟨row - 1, (Nat.succ_pred_eq_of_ne_zero ?_).symm⟩
          rintro rfl
          have none : near.pick? tie (stepAt (place - (0 : Nat))) = none := by
            rw [Int.natCast_zero, Int.sub_zero]
            exact missed
          rw [none] at some_hit
          cases some_hit
        have later : place - ((less + 1 : Nat) : Int) = place - 1 - (less : Int) := by omega
        rw [later] at some_hit
        obtain ⟨spans, above⟩ := @ih (place - 1) (by omega) ⟨less, by omega, some_hit⟩
        exact ⟨spans, by omega⟩

/-! ### The neighbourhood of a double -/

variable {bits : Nat}

theorem units_pos (positive : 0 < bits) : 0 < binary64.units bits :=
  BinaryFormat.units_strictMono positive

theorem inside_neighbourhood (positive : 0 < bits) :
    (neighbourhood bits).low < (neighbourhood bits).value ∧
      (neighbourhood bits).value < (neighbourhood bits).high := by
  have scale := tenTo_pos decimalScale
  have below : binary64.units (bits - 1) < binary64.units bits :=
    BinaryFormat.units_strictMono (Nat.sub_lt positive (by decide))
  have above : binary64.units bits < binary64.units (bits + 1) :=
    BinaryFormat.units_strictMono (Nat.lt_succ_self bits)
  constructor
  · exact Nat.mul_lt_mul_of_pos_right (by omega) scale
  · exact Nat.mul_lt_mul_of_pos_right (by omega) scale

/-- The number that has as many digits as a double has before the last place of the scale. -/
def scaledWhole (bits : Nat) : Nat :=
  binary64.units bits * tenTo decimalScale / twoTo binary64.scale

theorem leadingPlace_eq (bits : Nat) :
    leadingPlace bits = (digitChars (scaledWhole bits)).length - 1 - decimalScale := rfl

theorem tenTo_le_scaledWhole (positive : 0 < bits) : tenTo 17 ≤ scaledWhole bits := by
  have enough : tenTo 17 * twoTo binary64.scale ≤ tenTo decimalScale := by decide +kernel
  refine (Nat.le_div_iff_mul_le (twoTo_pos _)).mpr (Nat.le_trans enough ?_)
  exact Nat.le_mul_of_pos_left _ (units_pos positive)

theorem lt_length_digitChars_iff {n k : Nat} (positive : 0 < k) :
    k < (digitChars n).length ↔ tenTo k ≤ n := by
  have short := Nat.length_toDigits_le_iff (b := 10) (n := n) (by decide) positive
  exact Nat.not_le.symm.trans ((not_congr short).trans Nat.not_lt)

theorem tenTo_length_le {n : Nat} (long : 1 < (digitChars n).length) :
    tenTo ((digitChars n).length - 1) ≤ n :=
  (lt_length_digitChars_iff (Nat.sub_pos_of_lt long)).mp (Nat.sub_lt (by omega) (by decide))

theorem le_leadingPlace (positive : 0 < bits) :
    17 < (digitChars (scaledWhole bits)).length :=
  (lt_length_digitChars_iff (by decide)).mpr (tenTo_le_scaledWhole positive)

/-- The steps of the eighteenth row are smaller than a double is apart from the next. -/
theorem stepAt_lt (positive : 0 < bits) :
    stepAt (leadingPlace bits - 17) < twoTo (bits / twoTo 52 - 1) * tenTo decimalScale := by
  have long := le_leadingPlace positive
  have leading : tenTo ((digitChars (scaledWhole bits)).length - 1) ≤ scaledWhole bits :=
    tenTo_length_le (by omega)
  have place : (decimalScale + (leadingPlace bits - 17)).toNat + 17 =
      (digitChars (scaledWhole bits)).length - 1 := by
    rw [leadingPlace_eq, decimalScale]
    omega
  have spaced : 2 * twoTo 53 ≤ tenTo 17 := by decide
  refine Nat.lt_of_mul_lt_mul_right (a := tenTo 17) ?_
  calc
    stepAt (leadingPlace bits - 17) * tenTo 17
        = twoTo (binary64.scale + 1) * tenTo ((digitChars (scaledWhole bits)).length - 1) := by
      rw [stepAt, Nat.mul_assoc, ← tenTo_add, place]
    _ ≤ twoTo (binary64.scale + 1) * scaledWhole bits := Nat.mul_le_mul_left _ leading
    _ = 2 * (scaledWhole bits * twoTo binary64.scale) := by
      rw [twoTo_add, Nat.mul_comm, Nat.mul_comm _ (twoTo 1), ← Nat.mul_assoc,
        Nat.mul_comm _ (twoTo 1), Nat.mul_assoc]
      rfl
    _ ≤ 2 * (binary64.units bits * tenTo decimalScale) :=
      Nat.mul_le_mul_left 2 (Nat.div_mul_le_self _ _)
    _ < 2 * (twoTo 53 * twoTo (bits / twoTo 52 - 1) * tenTo decimalScale) :=
      Nat.mul_lt_mul_of_pos_left
        (Nat.mul_lt_mul_of_pos_right (BinaryFormat.units_lt bits) (tenTo_pos _)) (by decide)
    _ = 2 * twoTo 53 * (twoTo (bits / twoTo 52 - 1) * tenTo decimalScale) := by
      rw [Nat.mul_assoc (twoTo 53), Nat.mul_assoc]
    _ ≤ twoTo (bits / twoTo 52 - 1) * tenTo decimalScale * tenTo 17 := by
      rw [Nat.mul_comm _ (tenTo 17)]
      exact Nat.mul_le_mul_right _ spaced

/-- What is written of a double lies in its neighbourhood, with its last digit seventeen places
below the first at most. -/
theorem spans_shortest (tie : Tie) (positive : 0 < bits) :
    (neighbourhood bits).Spans (shortest tie bits).point ∧
      leadingPlace bits - 17 ≤ (shortest tie bits).exponent := by
  have long := le_leadingPlace positive
  have narrow : (neighbourhood bits).low + stepAt (leadingPlace bits - 17) <
      (neighbourhood bits).high := by
    have step := stepAt_lt positive
    have below : binary64.units (bits - 1) ≤ binary64.units bits :=
      BinaryFormat.units_strictMono.monotone (Nat.sub_le bits 1)
    calc
      (neighbourhood bits).low + stepAt (leadingPlace bits - 17)
          < (binary64.units bits + binary64.units bits) * tenTo decimalScale +
            twoTo (bits / twoTo 52 - 1) * tenTo decimalScale :=
        Nat.add_lt_add_of_le_of_lt
          (Nat.mul_le_mul_right _ (Nat.add_le_add_right below _)) step
      _ = (neighbourhood bits).high := by
        rw [← Nat.add_mul, Nat.add_assoc, ← BinaryFormat.units_succ]
        rfl
  have hit : ((neighbourhood bits).pick? tie (stepAt (leadingPlace bits - 17))).isSome = true :=
    Neighbourhood.isSome_pick? (stepAt_pos _) (inside_neighbourhood positive) narrow
  have inside : (18 : Nat) ≤ leadingPlace bits + 401 := by
    rw [leadingPlace_eq, decimalScale]
    omega
  obtain ⟨spans, above⟩ := spans_searchDigits inside ⟨17, by decide, hit⟩
  exact ⟨spans, Int.le_trans (by omega) above⟩

/-! ### Great doubles -/

theorem le_units_of_large (large : twoTo 52 ≤ binary64.units bits) :
    twoTo 52 * twoTo (bits / twoTo 52 - 1) ≤ binary64.units bits := by
  obtain ⟨m, below, normal, parts⟩ := BinaryFormat.exists_parts bits
  generalize bits / twoTo 52 - 1 = s at normal parts ⊢
  rw [parts, BinaryFormat.units_add (Nat.le_of_lt below) normal] at large ⊢
  rcases normal with rfl | full
  · exact Nat.le_trans (Nat.le_of_eq (Nat.mul_one _)) large
  · exact Nat.mul_le_mul_right _ full

/-- The number that a decimal without a fraction stands for. -/
def Decimal.whole (d : Decimal) : Nat := d.digits * tenTo d.exponent.toNat

theorem Decimal.point_eq {d : Decimal} (whole : 0 ≤ d.exponent) :
    d.point = 2 * (d.whole * twoTo binary64.scale) * tenTo decimalScale := by
  have place : (decimalScale + d.exponent).toNat = d.exponent.toNat + decimalScale := by
    rw [decimalScale]
    omega
  have doubled : twoTo (binary64.scale + 1) = twoTo 1 * twoTo binary64.scale := by
    rw [Nat.add_comm, twoTo_add]
  rw [Decimal.point, stepAt, place, tenTo_add, doubled, Decimal.whole, show twoTo 1 = 2 from rfl]
  generalize twoTo binary64.scale = one
  generalize tenTo decimalScale = scale
  ac_rfl

/-- What is written of a double from ten to the seventeen on has no fraction, and is near to it. -/
theorem near_shortest (tie : Tie) (large : tenTo 17 * twoTo binary64.scale ≤ binary64.units bits) :
    0 ≤ (shortest tie bits).exponent ∧
      Near (twoTo 53 - 1) (twoTo 53) ((shortest tie bits).whole * twoTo binary64.scale)
        (binary64.units bits) := by
  have positive : 0 < bits := by
    rcases Nat.eq_zero_or_pos bits with rfl | positive
    · have zero : binary64.units 0 = 0 := rfl
      rw [zero] at large
      exact absurd (Nat.mul_pos (tenTo_pos 17) (twoTo_pos _)) (Nat.not_lt.mpr large)
    · exact positive
  have leading : 17 ≤ leadingPlace bits := by
    have long : 417 < (digitChars (scaledWhole bits)).length := by
      rw [lt_length_digitChars_iff (by decide)]
      refine (Nat.le_div_iff_mul_le (twoTo_pos _)).mpr ?_
      calc
        tenTo 417 * twoTo binary64.scale
            = tenTo 17 * twoTo binary64.scale * tenTo decimalScale := by
          rw [show 417 = 17 + decimalScale from rfl, tenTo_add, Nat.mul_right_comm]
        _ ≤ binary64.units bits * tenTo decimalScale := Nat.mul_le_mul_right _ large
    rw [leadingPlace_eq, decimalScale]
    omega
  obtain ⟨⟨low, high⟩, place⟩ := spans_shortest tie positive
  have whole : 0 ≤ (shortest tie bits).exponent := by omega
  refine ⟨whole, ?_⟩
  rw [Decimal.point_eq whole] at low high
  have scale := tenTo_pos decimalScale
  have above : 2 * ((shortest tie bits).whole * twoTo binary64.scale) ≤
      binary64.units bits + binary64.units (bits + 1) := Nat.le_of_mul_le_mul_right high scale
  have below : binary64.units (bits - 1) + binary64.units bits ≤
      2 * ((shortest tie bits).whole * twoTo binary64.scale) := Nat.le_of_mul_le_mul_right low scale
  have next := BinaryFormat.units_succ bits
  have previous := BinaryFormat.units_succ (bits - 1)
  rw [Nat.sub_add_cancel positive] at previous
  have closer : twoTo ((bits - 1) / twoTo 52 - 1) ≤ twoTo (bits / twoTo 52 - 1) :=
    twoTo_le_twoTo (Nat.sub_le_sub_right (Nat.div_le_div_right (Nat.sub_le bits 1)) 1)
  have least : twoTo 52 ≤ tenTo 17 * twoTo binary64.scale := by decide +kernel
  exact .of_spacing (by omega) (by omega) (le_units_of_large (Nat.le_trans least large))

/-- What is written of a double that is near to a great whole number has no fraction, and is near to
the whole number. -/
theorem Double.NearWhole.near_shortest {x : Double} {n : Int} (near : x.NearWhole n) (tie : Tie)
    (great : twoTo 63 ≤ n.natAbs) :
    0 ≤ (shortest tie x.magnitudeBits).exponent ∧
      Near (twoTo 50) (twoTo 50 + 1) (shortest tie x.magnitudeBits).whole n.natAbs := by
  have large : tenTo 17 * twoTo binary64.scale ≤ binary64.units x.magnitudeBits := by
    rw [Double.scale_eq]
    refine Nat.le_of_mul_le_mul_left ?_ (twoTo_pos 51)
    calc
      twoTo 51 * (tenTo 17 * twoTo 1074) = twoTo 51 * tenTo 17 * twoTo 1074 :=
        (Nat.mul_assoc _ _ _).symm
      _ ≤ (twoTo 51 - 1) * twoTo 63 * twoTo 1074 := Nat.mul_le_mul_right _ (by decide)
      _ ≤ (twoTo 51 - 1) * n.natAbs * twoTo 1074 :=
        Nat.mul_le_mul_right _ (Nat.mul_le_mul_left _ great)
      _ = (twoTo 51 - 1) * (n.natAbs * twoTo 1074) := Nat.mul_assoc _ _ _
      _ ≤ twoTo 51 * x.magnitude := near.near.2
  obtain ⟨whole, digits⟩ := Number.near_shortest tie large
  rw [Double.scale_eq] at digits
  have product := (digits.trans near.near).of_mul_right (twoTo_pos 1074)
  exact ⟨whole, product.mono (by decide) (by decide)⟩

end RowFilter.Number
