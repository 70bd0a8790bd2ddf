import Mathlib.Algebra.Order.Ring.Int
import RowFilter.Number.Double

/-!
# Doubles and whole numbers

A double counts units of two to the minus 1074. It is a whole number if it is finite and its units
are a multiple of those of one.
-/

namespace RowFilter.Number

theorem twoTo_pos (n : Nat) : 0 < twoTo n := Nat.pow_pos (by decide)

namespace Double

/-- A double is the whole number of which it has the units, if it is finite. -/
theorem whole?_eq_some_iff (x : Double) (n : Int) :
    x.whole? = some n ↔ x.isFinite = true ∧ x.units = n * (twoTo binary64.scale : Nat) := by
  have positive : 0 < twoTo binary64.scale := twoTo_pos _
  unfold whole? units
  generalize twoTo binary64.scale = one at positive
  generalize x.magnitude = magnitude
  have nonzero : (one : Int) ≠ 0 := by omega
  cases finite : x.isFinite with
  | false => simp
  | true =>
      by_cases multiple : magnitude % one = 0
      · -- The magnitude is a multiple, so that dividing it loses nothing.
        obtain ⟨count, rfl⟩ := Nat.dvd_of_mod_eq_zero multiple
        have divided : ((one * count : Nat) : Int) / (one : Int) = count := by
          rw [Int.natCast_mul, Int.mul_ediv_cancel_left _ nonzero]
        simp only [multiple, beq_self_eq_true, Bool.and_self, if_true, Option.some.injEq, divided,
          true_and]
        cases x.isNegative with
        | true =>
            simp only [if_true, Int.natCast_mul, Int.mul_comm (one : Int), ← Int.neg_mul]
            exact (Int.mul_eq_mul_right_iff nonzero).symm
        | false =>
            simp only [Bool.false_eq_true, if_false, Int.natCast_mul, Int.mul_comm (one : Int)]
            exact (Int.mul_eq_mul_right_iff nonzero).symm
      · have other : (magnitude % one == 0) = false := beq_false_of_ne multiple
        simp only [other, Bool.and_false, Bool.false_eq_true, if_false, reduceCtorEq, true_and,
          false_iff]
        intro same
        have divides : (one : Int) ∣ (magnitude : Int) := by
          split at same
          · exact ⟨-n, by rw [Int.mul_neg, Int.mul_comm, ← same, Int.neg_neg]⟩
          · exact ⟨n, by rw [same, Int.mul_comm]⟩
        exact multiple (Nat.mod_eq_zero_of_dvd (Int.natCast_dvd_natCast.mp divides))

end Double

end RowFilter.Number
