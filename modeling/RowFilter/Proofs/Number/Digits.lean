import Mathlib.Data.List.TakeDrop
import RowFilter.Number.BigEndian
import RowFilter.Number.Reading
import RowFilter.Proofs.Text.Utf8

/-!
# Digits and octets read back

A row of decimal digits at the start of a text is read as its values, and stands for the number that
it was written for. Leading zeros change nothing.

A number is written in as many octets as asked for, and reading them gives its last bits. A number
with a sign is read back as itself as long as it fits: what is read is its residue closest to zero,
and two numbers that fit are too close to share one.
-/

namespace RowFilter.Number

open Text

theorem digitValue?_of_isDigit {c : Char} (digit : c.isDigit = true) :
    digitValue? c = some (c.toNat - '0'.toNat) := by
  have bounds : ('0' ≤ c && c ≤ '9') = true := by
    simpa [Char.isDigit, Char.le_def] using digit
  rw [digitValue?, if_pos bounds]
  rfl

theorem digitValue?_of_not_isDigit {c : Char} (other : c.isDigit = false) :
    digitValue? c = none := by
  have bounds : ¬ ('0' ≤ c && c ≤ '9') = true := by
    simpa [Char.isDigit, Char.le_def] using other
  rw [digitValue?, if_neg bounds]

/-- The values of digits. -/
def digitValues (chars : List Char) : List Nat := chars.map fun c => c.toNat - '0'.toNat

/-- The digits at the start of a text are read as their values, up to a character that is none. -/
theorem spanDigits_append {chars rest : List Char} (digits : ∀ c ∈ chars, c.isDigit = true)
    (stops : ∀ c ∈ rest.head?, c.isDigit = false) :
    spanDigits (chars ++ rest) = (digitValues chars, rest) := by
  induction chars with
  | nil =>
      cases rest with
      | nil => rfl
      | cons c rest =>
          rw [List.nil_append, spanDigits, digitValue?_of_not_isDigit (stops c rfl)]
          rfl
  | cons c chars ih =>
      rw [List.forall_mem_cons] at digits
      rw [List.cons_append, spanDigits, digitValue?_of_isDigit digits.1, ih digits.2]
      rfl

theorem positional_digitValues (chars : List Char) :
    positional 10 (digitValues chars) = Nat.ofDigitChars 10 chars 0 := by
  rw [positional, digitValues, List.foldl_map, Nat.ofDigitChars]

theorem digitValue?_lt_ten {c : Char} {digit : Nat} (found : digitValue? c = some digit) :
    digit < 10 := by
  by_cases isDigit : c.isDigit = true
  · rw [digitValue?_of_isDigit isDigit] at found
    obtain rfl := Option.some.inj found
    have bounds : 48 ≤ c.toNat ∧ c.toNat ≤ 57 := by
      simpa [Char.isDigit, UInt32.le_iff_toNat_le] using isDigit
    show c.toNat - 48 < 10
    omega
  · rw [digitValue?_of_not_isDigit (Bool.eq_false_iff.mpr isDigit)] at found
    cases found

theorem spanDigits_lt_ten (text : List Char) : ∀ digit ∈ (spanDigits text).1, digit < 10 := by
  induction text with
  | nil => simp [spanDigits]
  | cons c rest ih =>
      rw [spanDigits]
      cases found : digitValue? c with
      | none => simp
      | some digit => exact List.forall_mem_cons.mpr ⟨digitValue?_lt_ten found, ih⟩

theorem length_spanDigits_le (text : List Char) : (spanDigits text).1.length ≤ text.length := by
  induction text with
  | nil => exact Nat.le_refl _
  | cons c rest ih =>
      rw [spanDigits]
      cases digitValue? c with
      | none => exact Nat.zero_le _
      | some digit => exact Nat.succ_le_succ ih

theorem le_ofDigitChars (chars : List Char) (init : Nat) :
    init ≤ Nat.ofDigitChars 10 chars init := by
  induction chars generalizing init with
  | nil => exact Nat.le_refl init
  | cons c rest ih =>
      rw [Nat.ofDigitChars_cons]
      exact Nat.le_trans (by omega) (ih _)

/-- The digits of a number that is not zero do not begin with a zero. -/
theorem exists_toDigits_eq_cons {n : Nat} (positive : 0 < n) :
    ∃ c rest, Nat.toDigits 10 n = c :: rest ∧ c ≠ '0' := by
  induction n using Nat.strongRecOn with
  | ind n ih =>
      rcases Nat.lt_or_ge n 10 with small | large
      · refine ⟨n.digitChar, [], Nat.toDigits_of_lt_base small, ?_⟩
        have each : ∀ m < 10, 0 < m → m.digitChar ≠ '0' := by decide
        exact each n small positive
      · obtain ⟨c, rest, digits, nonzero⟩ :=
          ih (n / 10) (Nat.div_lt_self positive (by decide)) (by omega)
        refine ⟨c, rest ++ [(n % 10).digitChar], ?_, nonzero⟩
        rw [Nat.toDigits_of_base_le (by decide) large, digits]
        rfl

theorem tenTo_pos (n : Nat) : 0 < tenTo n := Nat.pow_pos (by decide)

theorem tenTo_add (m n : Nat) : tenTo (m + n) = tenTo m * tenTo n := Nat.pow_add 10 m n

theorem tenTo_le_tenTo {m n : Nat} (le : m ≤ n) : tenTo m ≤ tenTo n :=
  Nat.pow_le_pow_right (by decide) le

theorem positional_lt {digits : List Nat} (each : ∀ digit ∈ digits, digit < 10) :
    positional 10 digits < tenTo digits.length := by
  have after : ∀ value, digits.foldl (fun value digit => 10 * value + digit) value <
      (value + 1) * tenTo digits.length := by
    induction digits with
    | nil => simp [tenTo]
    | cons digit rest ih =>
        intro value
        rw [List.forall_mem_cons] at each
        calc
          rest.foldl (fun value digit => 10 * value + digit) (10 * value + digit)
              < (10 * value + digit + 1) * tenTo rest.length := ih each.2 _
          _ ≤ ((value + 1) * 10) * tenTo rest.length :=
              Nat.mul_le_mul_right _ (by have := each.1; omega)
          _ = (value + 1) * tenTo (digit :: rest).length := by
              rw [List.length_cons, Nat.add_comm rest.length, tenTo_add, Nat.mul_assoc]
              rfl
  simpa [positional] using after 0

/-! ### Octets -/

namespace BigEndian

@[simp] theorem length_octetsOfNat (count n : Nat) : (octetsOfNat count n).length = count := by
  induction count generalizing n with
  | zero => rfl
  | succ count ih => rw [octetsOfNat, List.length_append, ih, List.length_singleton]

@[simp] theorem length_octetsOfInt (count : Nat) (n : Int) :
    (octetsOfInt count n).length = count :=
  length_octetsOfNat count _

theorem natOfOctets_concat (octets : List UInt8) (last : UInt8) :
    natOfOctets (octets ++ [last]) = 256 * natOfOctets octets + last.toNat :=
  List.foldl_concat _ _ _ _

/-- So many octets keep so many bits of a number. -/
theorem natOfOctets_octetsOfNat (count n : Nat) :
    natOfOctets (octetsOfNat count n) = n % twoTo (8 * count) := by
  induction count generalizing n with
  | zero => exact (Nat.mod_one n).symm
  | succ count ih =>
      have bits : twoTo (8 * (count + 1)) = 256 * twoTo (8 * count) := by
        rw [Nat.mul_succ, Nat.mul_comm 256]
        exact Nat.pow_add 2 (8 * count) 8
      rw [octetsOfNat, natOfOctets_concat, ih, Text.toNat_ofNat_of_lt (Nat.mod_lt n (by decide)),
        bits, Nat.mod_mul, Nat.add_comm]

/-- A number with a sign that fits its octets is read back. -/
theorem intOfOctets_octetsOfInt {count : Nat} {n : Int} (some_octets : 0 < count)
    (low : -(twoTo (8 * count - 1) : Int) ≤ n) (high : n < twoTo (8 * count - 1)) :
    intOfOctets (octetsOfInt count n) = n := by
  have whole : twoTo (8 * count) = twoTo (8 * count - 1) * 2 := by
    rw [← Nat.sub_add_cancel (show 1 ≤ 8 * count by omega), Nat.add_sub_cancel]
    rfl
  have positive : (twoTo (8 * count) : Int) ≠ 0 := by omega
  have residue : 0 ≤ n % (twoTo (8 * count) : Int) := Int.emod_nonneg n positive
  have kept : (natOfOctets (octetsOfInt count n) : Int) = n % (twoTo (8 * count) : Int) := by
    rw [octetsOfInt, natOfOctets_octetsOfNat, Int.natCast_emod, Int.toNat_of_nonneg residue,
      Int.emod_emod]
  rw [intOfOctets, length_octetsOfInt, kept, Int.emod_bmod]
  apply Int.bmod_eq_of_le_mul_two <;> omega

end BigEndian

end RowFilter.Number
