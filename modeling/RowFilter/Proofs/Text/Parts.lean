import Mathlib.Data.List.Infix
import RowFilter.Proofs.Text.Lowercase
import RowFilter.Text.Occurrence

/-!
# Parts of a text

The searches for a part at the start, at the end and anywhere decide the relations of lists that
they are named after.

The lower case of a text is that of its parts one after the other, but of each part as it stands
between the others. Only a capital sigma looks at what stands around it. So the lower case of a part
alone stands at the place of the part in the lower case of the whole exactly if every capital sigma
of the part takes the same form there as in the part alone.
-/

namespace RowFilter.Text

/-! ### Searches -/

theorem startsWith_iff (part text : List Char) : startsWith part text = true ↔ part <+: text := by
  rw [startsWith, List.isPrefixOf_iff_prefix]

theorem endsWith_iff (part text : List Char) : endsWith part text = true ↔ part <:+ text := by
  rw [endsWith, List.isPrefixOf_iff_prefix, List.reverse_prefix]

theorem occursIn_iff (part text : List Char) : occursIn part text = true ↔ part <:+: text := by
  induction text with
  | nil => simp [occursIn]
  | cons c text ih => rw [occursIn, Bool.or_eq_true, startsWith_iff, ih, List.infix_cons_iff]

/-! ### Lower case -/

/-- The lower case of a text that stands between others; what stands before it is given nearest
first. -/
def lowerBetween (before after : List Char) : List Char → List Char
  | [] => []
  | c :: rest =>
    (if c.toNat = 0x3A3 then [lowerSigma before (rest ++ after)] else lowerChar c) ++
      lowerBetween (c :: before) after rest

/-- A text with nothing after it stands at the end. -/
theorem lowerBetween_nil (before text : List Char) :
    lowerBetween before [] text = lowerAfter before text := by
  induction text generalizing before with
  | nil => rfl
  | cons c rest ih => rw [lowerBetween, lowerAfter, List.append_nil, ih]

/-- The lower case of a text is that of a part of it between the others, followed by that of the
rest. -/
theorem lowerAfter_append (before text after : List Char) :
    lowerAfter before (text ++ after) =
      lowerBetween before after text ++ lowerAfter (text.reverse ++ before) after := by
  induction text generalizing before with
  | nil => rfl
  | cons c rest ih =>
      rw [List.cons_append, lowerAfter, lowerBetween, ih, List.reverse_cons, List.append_assoc,
        List.append_assoc]
      rfl

/-- What stands around a text does not change how long its lower case is. -/
theorem length_lowerBetween (before after text : List Char) :
    (lowerBetween before after text).length = (lower text).length := by
  suffices same : ∀ other, (lowerBetween before after text).length =
      (lowerAfter other text).length from same []
  induction text generalizing before with
  | nil => exact fun _ => rfl
  | cons c rest ih =>
      intro other
      rw [lowerBetween, lowerAfter, List.length_append, List.length_append, ih _ (c :: other)]
      split <;> rfl

/-- Whether every capital sigma of a text that stands between others has the same lower case there
as in the text alone. -/
def KeepsSigmas (before text after : List Char) : Prop :=
  ∀ first rest, text = first ++ 'Σ' :: rest →
    lowerSigma (first.reverse ++ before.reverse) (rest ++ after) = lowerSigma first.reverse rest

/-- A text without a capital sigma keeps all of them. -/
theorem keepsSigmas_of_not_mem {text : List Char} (none : 'Σ' ∉ text) (before after : List Char) :
    KeepsSigmas before text after := by
  rintro first rest rfl
  exact absurd (List.mem_append_right first List.mem_cons_self) none

theorem leadsToCased_append {after : List Char} (uncased : leadsToCased after = false)
    (text : List Char) : leadsToCased (text ++ after) = leadsToCased text := by
  induction text with
  | nil => exact uncased
  | cons c text ih => exact leadsToCased_cons_congr c ih

/-- A text keeps its sigmas if no letter stands next to it on either side. -/
theorem keepsSigmas_of_uncased {before after : List Char}
    (left : leadsToCased before.reverse = false) (right : leadsToCased after = false)
    (text : List Char) : KeepsSigmas before text after := by
  rintro first rest rfl
  rw [lowerSigma, lowerSigma, leadsToCased_append left, leadsToCased_append right]

/-- Two forms of a character that begins a text agree, and so do those of the rest, exactly if the
whole texts agree. -/
private theorem append_lowerChar_eq_iff (c small other : Char) (text more : List Char) :
    (if c.toNat = 0x3A3 then [small] else lowerChar c) ++ text =
        (if c.toNat = 0x3A3 then [other] else lowerChar c) ++ more ↔
      (c = 'Σ' → small = other) ∧ text = more := by
  have sigma : c.toNat = 0x3A3 ↔ c = 'Σ' := Char.toNat_inj (d := 'Σ')
  by_cases hc : c = 'Σ'
  · simp [hc]
  · simp [sigma, hc]

/-- A text has the same lower case between others as alone exactly if it keeps its sigmas. -/
theorem lowerBetween_eq_lower_iff (before text after : List Char) :
    lowerBetween before.reverse after text = lower text ↔ KeepsSigmas before text after := by
  -- The characters of the text that were read already stand before the rest of it in both cases.
  suffices general : ∀ early, lowerBetween (early ++ before.reverse) after text =
      lowerAfter early text ↔ ∀ first rest, text = first ++ 'Σ' :: rest →
        lowerSigma (first.reverse ++ early ++ before.reverse) (rest ++ after) =
          lowerSigma (first.reverse ++ early) rest by
    simpa [KeepsSigmas, lower] using general []
  induction text with
  | nil => simp [lowerBetween, lowerAfter]
  | cons c text ih =>
      intro early
      rw [lowerBetween, lowerAfter, append_lowerChar_eq_iff, ← List.cons_append, ih (c :: early)]
      constructor
      · rintro ⟨here, later⟩ first rest split
        rcases List.cons_eq_append_iff.mp split with ⟨rfl, same⟩ | ⟨others, rfl, same⟩
        · obtain ⟨rfl, rfl⟩ := List.cons.inj same
          exact here rfl
        · simpa using later others rest same
      · intro each
        refine ⟨fun same => ?_, fun first rest split => ?_⟩
        · exact each [] text (by rw [same]; rfl)
        · simpa using each (c :: first) rest (by rw [split]; rfl)

/-! ### Parts of texts -/

theorem lower_append (text after : List Char) :
    lower (text ++ after) = lowerBetween [] after text ++ lowerAfter text.reverse after := by
  rw [lower, lowerAfter_append, List.append_nil]

variable {before part after : List Char}

/-- A part that keeps its sigmas is found in the lower case of the text where it stands. -/
theorem lower_infix_of_keepsSigmas (keeps : KeepsSigmas before part after) :
    lower part <:+: lower (before ++ part ++ after) := by
  have same := (lowerBetween_eq_lower_iff before part after).mpr keeps
  rw [List.append_assoc, lower_append before, lowerAfter_append, same]
  exact ⟨_, _, List.append_assoc _ _ _⟩

/-- The lower case of a text starts with that of a part that it starts with exactly if the part
keeps its sigmas. -/
theorem lower_prefix_iff_keepsSigmas :
    lower part <+: lower (part ++ after) ↔ KeepsSigmas [] part after := by
  have length := length_lowerBetween [] after part
  rw [← lowerBetween_eq_lower_iff, List.reverse_nil, lower_append]
  constructor
  · intro starts
    have inside := List.prefix_of_prefix_length_le starts (List.prefix_append _ _)
      (Nat.le_of_eq length.symm)
    exact (inside.eq_of_length length.symm).symm
  · intro same
    rw [same]
    exact List.prefix_append _ _

/-- The lower case of a text ends with that of a part that it ends with exactly if the part keeps
its sigmas. -/
theorem lower_suffix_iff_keepsSigmas :
    lower part <:+ lower (before ++ part) ↔ KeepsSigmas before part [] := by
  have length := length_lowerBetween before.reverse [] part
  rw [← lowerBetween_eq_lower_iff, lower_append, ← lowerBetween_nil before.reverse]
  constructor
  · intro ends
    have inside := List.suffix_of_suffix_length_le ends (List.suffix_append _ _)
      (Nat.le_of_eq length.symm)
    exact (inside.eq_of_length length.symm).symm
  · intro same
    rw [same]
    exact List.suffix_append _ _

end RowFilter.Text
