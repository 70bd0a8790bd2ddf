import RowFilter.Proofs.Text.Utf8
import RowFilter.Text.Lowercase

/-!
# Lower case and its surroundings

The lower case of a character depends on its surroundings only through the final sigma, which looks
for the nearest character that is not case-ignorable on either side. A character that is neither
case-ignorable nor cased, and that is its own lower case, therefore separates what stands on its two
sides: it behaves as the end of the text does.

No character beyond ASCII has a lower case below the small letters, so punctuation never arises from
lower-casing. Within ASCII every character is lower-cased by itself.
-/

namespace RowFilter.Text

@[simp] theorem leadsToCased_nil : leadsToCased [] = false := rfl

/-- Whether a text leads to a cased character is decided by its first character unless that one is
case-ignorable. -/
theorem leadsToCased_cons (c : Char) (text : List Char) :
    leadsToCased (c :: text) =
      if caseIgnorable.contains c then leadsToCased text else cased.contains c := by
  by_cases hc : caseIgnorable.contains c = true
  · rw [leadsToCased, List.dropWhile_cons_of_pos hc, if_pos hc]
    rfl
  · rw [leadsToCased, List.dropWhile_cons_of_neg hc, if_neg hc]

theorem leadsToCased_cons_congr (c : Char) {text other : List Char}
    (same : leadsToCased text = leadsToCased other) :
    leadsToCased (c :: text) = leadsToCased (c :: other) := by
  rw [leadsToCased_cons, leadsToCased_cons, same]

/-- What stands before a text matters to its lower case only by whether it leads to a cased
character. -/
theorem lowerAfter_congr {before other : List Char}
    (same : leadsToCased before = leadsToCased other) (text : List Char) :
    lowerAfter before text = lowerAfter other text := by
  induction text generalizing before other with
  | nil => rfl
  | cons c text ih =>
      have later := ih (leadsToCased_cons_congr c same)
      rw [lowerAfter, lowerAfter, lowerSigma, lowerSigma, same, later]

/-- A character that is its own lower case and that no search for a cased character passes or stops
at with success. -/
structure IsBarrier (c : Char) : Prop where
  /-- It is not case-ignorable. -/
  notIgnorable : caseIgnorable.contains c = false
  /-- It is not cased. -/
  notCased : cased.contains c = false
  /-- It is its own lower case. -/
  lowerChar_eq : lowerChar c = [c]

namespace IsBarrier

variable {c : Char}

theorem leadsToCased_cons (barrier : IsBarrier c) (text : List Char) :
    leadsToCased (c :: text) = false := by
  rw [Text.leadsToCased_cons, barrier.notIgnorable, barrier.notCased]
  rfl

/-- A capital sigma is cased, so a barrier is none. -/
theorem toNat_ne_sigma (barrier : IsBarrier c) : c.toNat ≠ 0x3A3 := by
  intro hc
  have notCased := barrier.notCased
  rw [CharSet.contains, hc] at notCased
  exact absurd notCased (by decide)

/-- A barrier is kept, and what follows is lower-cased as if it began the text. -/
theorem lowerAfter_cons (barrier : IsBarrier c) (before text : List Char) :
    lowerAfter before (c :: text) = c :: lowerAfter [] text := by
  rw [lowerAfter, if_neg barrier.toNat_ne_sigma, barrier.lowerChar_eq,
    lowerAfter_congr ((barrier.leadsToCased_cons before).trans leadsToCased_nil.symm)]
  rfl

end IsBarrier

private theorem le_target_of_mem_lowerRuns :
    ∀ run ∈ lowerRuns, 0x60 ≤ run.target := by decide +kernel

/-- Lower-casing maps no code point beyond ASCII below the small letters. -/
theorem le_mapThrough_lowerRuns {n : Nat} (beyond : 0x80 ≤ n) : 0x60 ≤ mapThrough lowerRuns n := by
  unfold mapThrough
  cases found : lowerRuns.findSome? (·.map? n) with
  | none =>
      rw [Option.getD_none]
      omega
  | some m =>
      obtain ⟨run, hrun, mapped⟩ := List.exists_of_findSome?_eq_some found
      have target := le_target_of_mem_lowerRuns run hrun
      simp only [CharRun.map?, Option.ite_none_right_eq_some, Option.some.injEq] at mapped
      rw [Option.getD_some]
      omega

/-- The code point of a character made from a code point is that code point, or zero where there is
no such character. -/
theorem toNat_ofNat_eq_or (n : Nat) : (Char.ofNat n).toNat = n ∨ (Char.ofNat n).toNat = 0 := by
  by_cases valid : n.isValidChar
  · left
    rw [Char.ofNat, dif_pos valid]
    rfl
  · right
    rw [Char.ofNat, dif_neg valid]
    rfl

/-- The lower case of a character holds no visible ASCII character before the small letters, unless
it is the character itself. -/
theorem lowerChar_bound {c d : Char} (hd : d ∈ lowerChar c) :
    d = c ∨ d.toNat = 0 ∨ 0x60 ≤ d.toNat := by
  unfold lowerChar at hd
  split at hd
  · rw [List.mem_singleton] at hd
    split at hd
    · rename_i capital
      simp only [Bool.and_eq_true, decide_eq_true_eq, Char.le_def,
        UInt32.le_iff_toNat_le] at capital
      have low : 0x41 ≤ c.toNat := capital.1
      have code := toNat_ofNat_eq_or (c.toNat + 32)
      rw [← hd] at code
      omega
    · exact .inl hd
  · rename_i beyond
    split at hd
    · simp only [List.mem_cons, List.not_mem_nil, or_false] at hd
      rcases hd with rfl | rfl
      · exact .inr (.inr (by decide))
      · exact .inr (.inr (by decide))
    · rw [List.mem_singleton] at hd
      have bound := le_mapThrough_lowerRuns (Nat.le_of_not_lt beyond)
      have code := toNat_ofNat_eq_or (mapThrough lowerRuns c.toNat)
      rw [← hd] at code
      omega

/-! ### Lower case within ASCII -/

theorem lowerChar_of_ascii {c : Char} (ascii : c.toNat < 0x80) : lowerChar c = [c.toLower] :=
  forall_ascii (P := fun c => lowerChar c = [c.toLower]) (by decide +kernel) ascii

/-- Within ASCII every character is lower-cased by itself. -/
theorem lowerAfter_of_ascii {text : List Char} (ascii : ∀ c ∈ text, c.toNat < 0x80)
    (before : List Char) : lowerAfter before text = text.map Char.toLower := by
  induction text generalizing before with
  | nil => rfl
  | cons c rest ih =>
      rw [List.forall_mem_cons] at ascii
      have noSigma : c.toNat ≠ 0x3A3 := by omega
      rw [lowerAfter, if_neg noSigma, lowerChar_of_ascii ascii.1, ih ascii.2]
      rfl

end RowFilter.Text
