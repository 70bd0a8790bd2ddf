import RowFilter.Proofs.Postgres.Binding

/-!
# Whole numbers as parameters

A column of whole numbers takes a value that is a whole number within its width, and takes it
exactly. Everything else is refused, with one exception: a column of 64 bits also takes a double
beyond its range, and what is bound is the end of the range.
-/

namespace RowFilter.Postgres.Parameter

open RowFilter.Filter RowFilter.Number

/-- The end of the range of 64 bits on the side of a number. -/
def endOf64 (n : Int) : Int := if n < 0 then -twoTo 63 else twoTo 63 - 1

theorem clampedTo64_of_not_fits {n : Int} (beyond : IntegerWidth.eight.fits n = false) :
    clampedTo64 n = endOf64 n := by
  have half : twoTo 63 = 9223372036854775808 := rfl
  have bound : twoTo (8 * IntegerWidth.eight.octets - 1) = 9223372036854775808 := rfl
  rw [← Bool.not_eq_true, IntegerWidth.fits_iff, bound] at beyond
  rw [clampedTo64, endOf64, half]
  split <;> omega

/-- A value that is not null is bound to a column of whole numbers exactly if it is a whole number
that fits the column, which is then bound as it is; or if it is beyond 64 bits and the column has
these, and then the end of their range is bound. Fractions, other numbers out of range and what is
no number are refused. Only doubles are beyond 64 bits. -/
theorem bind_integer_exact {value : Value} (given : value.isNull = false) (width : IntegerWidth) :
    (∀ parameter, bind value (.integer width) = .ok parameter ↔
      ∃ n, value.IsWhole n ∧
        ((width.fits n = true ∧ parameter = .integer width n) ∨
          (width = .eight ∧ width.fits n = false ∧ parameter = .integer width (endOf64 n)))) ∧
    (∀ problem, bind value (.integer width) = .error problem ↔
      problem = mismatch value (.integer width) ∧
        ∀ n, value.IsWhole n → width ≠ .eight ∧ width.fits n = false) ∧
    ∀ n, value.IsWhole n → IntegerWidth.eight.fits n = false → ∃ x, value = .double x := by
  refine ⟨fun parameter => ?_, fun problem => ?_, fun n whole beyond => ?_⟩
  · rw [bind_integer_eq_ok_iff given]
    refine exists_congr fun n => and_congr_right fun whole => ?_
    cases fits : width.fits n with
    | true => simp [clampedTo64_of_fits fits]
    | false =>
        simp only [Bool.false_eq_true, false_or, false_and, true_and]
        refine and_congr_right fun wide => ?_
        subst wide
        rw [clampedTo64_of_not_fits fits]
  · have bound := fun parameter => @bind_integer_eq_ok_iff value width given parameter
    constructor
    · intro refused
      refine ⟨eq_mismatch_of_bind_integer refused, fun n whole => ?_⟩
      have unfit : ¬ (width.fits n = true ∨ width = .eight) := by
        intro fits
        rw [(bound _).mpr ⟨n, whole, fits, rfl⟩] at refused
        cases refused
      rw [not_or, Bool.not_eq_true] at unfit
      exact unfit.symm
    · rintro ⟨rfl, unfit⟩
      cases result : bind value (.integer width) with
      | error problem => rw [eq_mismatch_of_bind_integer result]
      | ok parameter =>
          obtain ⟨n, whole, fits | wide, _⟩ := (bound parameter).mp result
          · rw [(unfit n whole).2] at fits
            cases fits
          · exact absurd wide (unfit n whole).1
  · cases value with
    | double x => exact ⟨x, rfl⟩
    | integer m =>
        obtain rfl : m.toInt = n := whole
        have fits : IntegerWidth.eight.fits m.toInt = true :=
          (IntegerWidth.fits_iff _ _).mpr ⟨m.le_toInt, m.toInt_lt⟩
        rw [fits] at beyond
        cases beyond
    | _ => cases whole

/-- Thirty, given as a double. -/
def sampleThirty : Value := .double ⟨0x403E000000000000⟩

/-- The double is bound as the whole number that it is. -/
theorem sample_thirty_bound :
    bind sampleThirty (.integer .two) = .ok (.integer .two 30) :=
  ((bind_integer_exact rfl .two).1 _).mpr
    ⟨30, ⟨by decide +kernel, by decide +kernel⟩, .inl ⟨rfl, rfl⟩⟩

/-- Ten to the nineteen, which is more than 64 bits hold. -/
def sampleBeyond : Value := .double ⟨0x43E158E460913D00⟩

/-- The double is a whole number out of the range of the column, and yet the greatest number of the
range is bound for it. A column of 32 bits refuses it. -/
theorem sample_beyond_bound :
    sampleBeyond.IsWhole 10000000000000000000 ∧
      IntegerWidth.eight.fits 10000000000000000000 = false ∧
      bind sampleBeyond (.integer .eight) = .ok (.integer .eight 9223372036854775807) ∧
      bind sampleBeyond (.integer .four) =
        .error (mismatch sampleBeyond (.integer .four)) := by
  have kept : (whole? sampleBeyond).filter IntegerWidth.eight.fits = some 9223372036854775807 := by
    decide +kernel
  have refused : (whole? sampleBeyond).filter IntegerWidth.four.fits = none := by decide +kernel
  refine ⟨⟨by decide +kernel, by decide +kernel⟩, rfl, ?_, ?_⟩
  · rw [bind, ofValue?, kept]
    rfl
  · rw [bind, ofValue?, refused]
    rfl

end RowFilter.Postgres.Parameter
