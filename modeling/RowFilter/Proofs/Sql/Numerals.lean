import Mathlib.Data.List.TakeWhile
import Mathlib.Tactic.IntervalCases
import RowFilter.Proofs.Number.ShortestDigits
import RowFilter.Proofs.Sql.Spelling

/-!
# Numerals

Whole numbers and finite doubles are written as numerals: digits, for doubles perhaps a point and
more digits, and a minus sign in front of what is negative. There is never an exponent, and a
numeral is one token.
-/

namespace RowFilter.Sql

open Number

/-- Whether all characters are digits and there is one. -/
def IsDigits (chars : List Char) : Prop := chars ≠ [] ∧ ∀ c ∈ chars, c.isDigit = true

theorem isDigits_toDigits (n : Nat) : IsDigits (Nat.toDigits 10 n) :=
  ⟨Nat.toDigits_ne_nil, fun _ hc => Nat.isDigit_of_mem_toDigits (by decide) (by decide) hc⟩

theorem IsDigits.append {first second : List Char} (digits : IsDigits first)
    (more : ∀ c ∈ second, c.isDigit = true) :
    IsDigits (first ++ second) := by
  refine ⟨List.append_ne_nil_of_left_ne_nil digits.1 second, fun c hc => ?_⟩
  rcases List.mem_append.mp hc with early | late
  · exact digits.2 c early
  · exact more c late

/-- Zeros are digits. -/
theorem isDigit_of_mem_zeros {count : Nat} {c : Char} (hc : c ∈ List.replicate count '0') :
    c.isDigit = true := by
  rw [List.eq_of_mem_replicate hc]
  rfl

/-- A plain numeral is a row of digits, or two with a point between them. -/
theorem isPlainNumeral_iff (chars : List Char) :
    isPlainNumeral chars = true ↔
      IsDigits chars ∨ ∃ whole fraction, IsDigits whole ∧ IsDigits fraction ∧
        chars = whole ++ '.' :: fraction := by
  constructor
  · intro numeral
    unfold isPlainNumeral at numeral
    have parts : chars.takeWhile Char.isDigit ++ chars.dropWhile Char.isDigit = chars :=
      List.takeWhile_append_dropWhile
    have digits : ∀ c ∈ chars.takeWhile Char.isDigit, c.isDigit = true :=
      fun _ hc => List.mem_takeWhile_imp hc
    generalize chars.takeWhile Char.isDigit = whole at numeral parts digits
    generalize chars.dropWhile Char.isDigit = rest at numeral parts
    rw [← parts]
    cases whole with
    | nil => simp at numeral
    | cons c whole =>
        cases rest with
        | nil =>
            left
            rw [List.append_nil]
            exact ⟨List.cons_ne_nil c whole, digits⟩
        | cons point fraction =>
            right
            simp only [Bool.and_eq_true, decide_eq_true_eq, Bool.not_eq_true',
              List.isEmpty_eq_false_iff, List.all_eq_true] at numeral
            obtain ⟨⟨rfl, some_digit⟩, all_digits⟩ := numeral
            exact ⟨c :: whole, fraction, ⟨List.cons_ne_nil c whole, digits⟩,
              ⟨some_digit, all_digits⟩, rfl⟩
  · rintro (⟨some_digit, digits⟩ | ⟨whole, fraction, ⟨some_digit, digits⟩, ⟨some_more, more⟩, rfl⟩)
    · have whole : chars.takeWhile Char.isDigit = chars := List.takeWhile_eq_self_iff.mpr digits
      have rest : chars.dropWhile Char.isDigit = [] := List.dropWhile_eq_nil_iff.mpr digits
      cases chars with
      | nil => exact absurd rfl some_digit
      | cons c chars => rw [isPlainNumeral, whole, rest]
    · have before : (whole ++ '.' :: fraction).takeWhile Char.isDigit = whole := by
        rw [List.takeWhile_append_of_pos digits]
        simp
      have after : (whole ++ '.' :: fraction).dropWhile Char.isDigit = '.' :: fraction := by
        rw [List.dropWhile_append_of_pos digits]
        simp
      have all_digits : fraction.all Char.isDigit = true := List.all_eq_true.mpr more
      have some_fraction : fraction.isEmpty = false := List.isEmpty_eq_false_iff.mpr some_more
      cases whole with
      | nil => exact absurd rfl some_digit
      | cons c whole =>
          rw [isPlainNumeral, before, after]
          show (decide ('.' = '.') && !fraction.isEmpty && fraction.all Char.isDigit) = true
          rw [all_digits, some_fraction]
          rfl

/-- A plain numeral begins with a digit, and holds nothing but digits and a point. -/
private theorem isPlainNumeral_chars {chars : List Char} (numeral : isPlainNumeral chars = true) :
    ∃ c rest, chars = c :: rest ∧ c.isDigit = true ∧ ∀ d ∈ rest, (d.isDigit || d = '.') = true := by
  have digits_or_point : ∀ d ∈ chars, (d.isDigit || d = '.') = true := by
    intro d hd
    rcases (isPlainNumeral_iff chars).mp numeral with digits | ⟨whole, fraction, digits, more, rfl⟩
    · simp [digits.2 d hd]
    · rcases List.mem_append.mp hd with hwhole | hfraction
      · simp [digits.2 d hwhole]
      · rcases List.mem_cons.mp hfraction with rfl | later
        · rfl
        · simp [more.2 d later]
  rcases (isPlainNumeral_iff chars).mp numeral with
    ⟨some_digit, digits⟩ | ⟨whole, fraction, ⟨some_digit, digits⟩, _, rfl⟩
  · obtain ⟨c, rest, rfl⟩ := List.exists_cons_of_ne_nil some_digit
    exact ⟨c, rest, rfl, digits c List.mem_cons_self, fun d hd =>
      digits_or_point d (List.mem_cons_of_mem c hd)⟩
  · obtain ⟨c, rest, rfl⟩ := List.exists_cons_of_ne_nil some_digit
    exact ⟨c, rest ++ '.' :: fraction, rfl, digits c List.mem_cons_self,
      fun d hd => digits_or_point d (List.mem_cons_of_mem c hd)⟩

private theorem numeral_extend (soFar : List Char) (d : Char) (hd : (d.isDigit || d = '.') = true) :
    (Reading.numeral soFar).extend d = some (.numeral (soFar ++ [d])) := by
  rw [Reading.extend, if_pos hd]

private theorem start_digit {c : Char} (digit : c.isDigit = true) :
    Reading.start c = some (.numeral [c]) := by
  have bounds : 48 ≤ c.toNat ∧ c.toNat ≤ 57 := by
    simp only [Char.isDigit, Bool.and_eq_true, decide_eq_true_eq, ge_iff_le,
      UInt32.le_iff_toNat_le] at digit
    exact digit
  obtain ⟨low, high⟩ := bounds
  rw [← Char.ofNat_toNat c]
  generalize c.toNat = code at low high
  interval_cases code <;> rfl

/-- A numeral is one token. -/
theorem spells_numeral {chars : List Char} (numeral : isNumeral chars = true) :
    Spells chars [.numeral (String.ofList chars)] := by
  have finished : (Reading.numeral chars).finish = some [.numeral (String.ofList chars)] := by
    rw [Reading.finish, if_pos numeral]
  unfold isNumeral at numeral
  split at numeral
  · rename_i chars
    obtain ⟨c, rest, rfl, digit, more⟩ := isPlainNumeral_chars numeral
    have signed : ∀ d ∈ c :: rest, (d.isDigit || d = '.') = true := by
      intro d hd
      rcases List.mem_cons.mp hd with rfl | later
      · simp [digit]
      · exact more d later
    exact spells_of_run rfl (foldlM_extend numeral_extend ['-'] signed) finished rfl
  · obtain ⟨c, rest, rfl, digit, more⟩ := isPlainNumeral_chars numeral
    exact spells_of_run (start_digit digit) (foldlM_extend numeral_extend [c] more) finished rfl

theorem isNumeral_of_isPlainNumeral {chars : List Char} (plain : isPlainNumeral chars = true) :
    isNumeral chars = true := by
  unfold isNumeral
  split
  · exact absurd plain (by simp [isPlainNumeral])
  · exact plain

theorem IsDigits.isPlainNumeral {chars : List Char} (digits : IsDigits chars) :
    isPlainNumeral chars = true :=
  (isPlainNumeral_iff chars).mpr (.inl digits)

/-- A whole number is written as a numeral. -/
theorem isNumeral_int (n : Int) : isNumeral (toString n).toList = true := by
  have digits : ∀ m : Nat, isPlainNumeral m.repr.toList = true := by
    intro m
    rw [Nat.toList_repr]
    exact (isDigits_toDigits m).isPlainNumeral
  have written : toString n = if 0 ≤ n then n.toNat.repr else "-" ++ (-n).toNat.repr :=
    Int.repr_eq_if
  rw [written]
  split
  · exact isNumeral_of_isPlainNumeral (digits n.toNat)
  · rw [String.toList_append]
    exact digits (-n).toNat

/-- Digits with a point at its place are a plain numeral. -/
theorem isPlainNumeral_layPositional {digits : List Char} (each : IsDigits digits)
    (exponent : Int) :
    isPlainNumeral (plainStyle.layPositional digits exponent) = true := by
  unfold Style.layPositional
  split
  · have whole : IsDigits (digits ++ List.replicate exponent.toNat '0') :=
      each.append fun _ hc => isDigit_of_mem_zeros hc
    have no_point : plainStyle.keepsPoint = false := rfl
    rw [no_point, if_neg Bool.false_ne_true, List.append_nil]
    exact whole.isPlainNumeral
  · rename_i negative
    have places : 0 < (-exponent).toNat := by omega
    rw [isPlainNumeral_iff]
    right
    dsimp only
    split
    · rename_i within
      refine ⟨_, _, ⟨?_, fun c hc => each.2 c (List.mem_of_mem_take hc)⟩,
        ⟨?_, fun c hc => each.2 c (List.mem_of_mem_drop hc)⟩, rfl⟩
      · rw [← List.length_pos_iff, List.length_take]
        omega
      · rw [← List.length_pos_iff, List.length_drop]
        omega
    · refine ⟨['0'], _, ⟨by simp, by simp⟩, ⟨?_, fun c hc => ?_⟩, rfl⟩
      · exact List.append_ne_nil_of_right_ne_nil _ each.1
      · rcases List.mem_append.mp hc with zero | digit
        · exact isDigit_of_mem_zeros zero
        · exact each.2 c digit

/-- The characters of a finite double: a sign if it is negative, and the fewest digits. -/
theorem toList_display {x : Double} (finite : x.isFinite = true) :
    x.display.toList = (if x.isNegative then ['-'] else []) ++
      (if x.isZero then ['0'] else plainStyle.layPositional
        (digitChars (shortest plainStyle.tie x.magnitudeBits).digits)
        (shortest plainStyle.tie x.magnitudeBits).exponent) := by
  have number : x.isNaN = false := by
    simp only [Double.isFinite, Double.isNaN, decide_eq_true_eq,
      decide_eq_false_iff_not] at finite ⊢
    omega
  rw [Double.display, number, finite]
  simp only [Bool.false_eq_true, if_false, if_true, String.toList_ofList]
  rfl

/-- A finite double is written as a numeral. -/
theorem isNumeral_display {x : Double} (finite : x.isFinite = true) :
    isNumeral x.display.toList = true := by
  have plain : isPlainNumeral (if x.isZero then ['0'] else plainStyle.layPositional
      (digitChars (shortest plainStyle.tie x.magnitudeBits).digits)
      (shortest plainStyle.tie x.magnitudeBits).exponent) = true := by
    split
    · rfl
    · exact isPlainNumeral_layPositional (isDigits_toDigits _) _
  rw [toList_display finite]
  split
  · exact plain
  · exact isNumeral_of_isPlainNumeral plain

/-! ### The number that is spelled -/

/-- The number that a row of digits spells. -/
def spelledDigits? (chars : List Char) : Option Nat :=
  if chars.all Char.isDigit && !chars.isEmpty then some (Nat.ofDigitChars 10 chars 0) else none

/-- The whole number that a numeral without a point spells. -/
def spelledWhole? : List Char → Option Int
  | '-' :: chars => (spelledDigits? chars).map fun n : Nat => -(n : Int)
  | chars => (spelledDigits? chars).map Nat.cast

theorem IsDigits.spelledDigits? {chars : List Char} (digits : IsDigits chars) :
    spelledDigits? chars = some (Nat.ofDigitChars 10 chars 0) := by
  refine if_pos ?_
  rw [Bool.and_eq_true, List.all_eq_true, Bool.not_eq_true', List.isEmpty_eq_false_iff]
  exact ⟨digits.2, digits.1⟩

theorem spelledDigits?_toDigits (n : Nat) : spelledDigits? (Nat.toDigits 10 n) = some n := by
  rw [(isDigits_toDigits n).spelledDigits?, Nat.ofDigitChars_ten_toDigits]

/-- Zeros after the digits of a number multiply it by a power of ten. -/
theorem spelledDigits?_zeros (n count : Nat) :
    spelledDigits? (digitChars n ++ List.replicate count '0') = some (n * tenTo count) := by
  have digits : IsDigits (digitChars n ++ List.replicate count '0') :=
    (isDigits_toDigits n).append fun _ hc => isDigit_of_mem_zeros hc
  rw [digits.spelledDigits?, digitChars, Nat.ofDigitChars_append, Nat.ofDigitChars_ten_toDigits,
    Nat.ofDigitChars_replicate_zero, Nat.mul_comm]
  rfl

/-- A minus sign in front of digits negates the number that they spell. -/
theorem spelledWhole?_signed (negative : Bool) {chars : List Char} {n : Nat}
    (spelled : spelledDigits? chars = some n) :
    spelledWhole? ((if negative then ['-'] else []) ++ chars) =
      some (if negative then -(n : Int) else n) := by
  cases negative with
  | true =>
      rw [if_pos rfl, List.singleton_append, spelledWhole?, spelled]
      rfl
  | false =>
      rw [if_neg Bool.false_ne_true, List.nil_append, spelledWhole?, spelled]
      · rfl
      · rintro rest rfl
        cases spelled

/-- A whole number is what its numeral spells. -/
theorem spelledWhole?_toString (n : Int) : spelledWhole? (toString n).toList = some n := by
  have written : toString n = if 0 ≤ n then n.toNat.repr else "-" ++ (-n).toNat.repr :=
    Int.repr_eq_if
  rw [written]
  split
  · rename_i positive
    rw [Nat.toList_repr]
    have spelled := spelledWhole?_signed false (spelledDigits?_toDigits n.toNat)
    rwa [if_neg Bool.false_ne_true, if_neg Bool.false_ne_true, Int.toNat_of_nonneg positive]
      at spelled
  · rename_i negative
    rw [String.toList_append, Nat.toList_repr]
    have spelled := spelledWhole?_signed true (spelledDigits?_toDigits (-n).toNat)
    rwa [if_pos rfl, if_pos rfl, Int.toNat_of_nonneg (by omega), Int.neg_neg] at spelled

/-- A zero spells zero, with a sign and without. -/
theorem spelledWhole?_display_zero {x : Double} (zero : x.isZero = true) :
    spelledWhole? x.display.toList = some 0 := by
  have finite : x.isFinite = true := by
    rw [Double.isZero, beq_iff_eq] at zero
    rw [Double.isFinite, zero]
    rfl
  rw [toList_display finite, if_pos zero, spelledWhole?_signed x.isNegative (n := 0) rfl]
  split <;> rfl

/-- Where the fewest digits of a double end before the point, they spell a whole number. -/
theorem spelledWhole?_display {x : Double} (finite : x.isFinite = true) (nonzero : x.isZero = false)
    (whole : 0 ≤ (shortest plainStyle.tie x.magnitudeBits).exponent) :
    spelledWhole? x.display.toList =
      some (if x.isNegative then -((shortest plainStyle.tie x.magnitudeBits).whole : Int)
        else (shortest plainStyle.tie x.magnitudeBits).whole) := by
  have laid : plainStyle.layPositional (digitChars (shortest plainStyle.tie x.magnitudeBits).digits)
      (shortest plainStyle.tie x.magnitudeBits).exponent =
        digitChars (shortest plainStyle.tie x.magnitudeBits).digits ++
          List.replicate (shortest plainStyle.tie x.magnitudeBits).exponent.toNat '0' := by
    have no_point : plainStyle.keepsPoint = false := rfl
    rw [Style.layPositional, if_pos whole, no_point, if_neg Bool.false_ne_true, List.append_nil]
  rw [toList_display finite, nonzero, laid]
  exact spelledWhole?_signed x.isNegative (spelledDigits?_zeros _ _)

end RowFilter.Sql
