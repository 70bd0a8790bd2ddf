import Mathlib.Data.List.TakeDrop
import Mathlib.Data.List.TakeWhile
import RowFilter.TypeName

/-!
# What type names are

Which texts are names of types, said without the way in which they are looked through: one
identifier, or two with a dot between them. No identifier has a dot in it, so a text is put together
in one way at most.
-/

namespace RowFilter.TypeName

/-- Whether characters are one identifier: a letter or an underscore, and after it letters, digits,
underscores and dollar signs. All letters and digits are those of ASCII. -/
def IsIdentifier (chars : List Char) : Prop :=
  ∃ first rest, chars = first :: rest ∧ (first.isAlpha = true ∨ first = '_') ∧
    ∀ c ∈ rest, c.isAlphanum = true ∨ c = '_' ∨ c = '$'

/-- Whether a text is one identifier, or two with a dot between them. -/
def IsPlain (text : String) : Prop :=
  IsIdentifier text.toList ∨
    ∃ qualifier name, text.toList = qualifier ++ '.' :: name ∧ IsIdentifier qualifier ∧
      IsIdentifier name

/-! ### Identifiers -/

theorem isStart_iff (c : Char) : isStart c = true ↔ c.isAlpha = true ∨ c = '_' := by
  have capitals : ('A' ≤ c && c ≤ 'Z') = c.isUpper := (Bool.decide_and _ _).symm
  have smalls : ('a' ≤ c && c ≤ 'z') = c.isLower := rfl
  have letters : c.isAlpha = (c.isUpper || c.isLower) := rfl
  rw [isStart, capitals, smalls, letters, Bool.or_eq_true, decide_eq_true_eq]

theorem isContinuation_iff (c : Char) :
    isContinuation c = true ↔ c.isAlphanum = true ∨ c = '_' ∨ c = '$' := by
  have digits : ('0' ≤ c && c ≤ '9') = c.isDigit := rfl
  have either : c.isAlphanum = (c.isAlpha || c.isDigit) := rfl
  rw [isContinuation, digits, either]
  simp only [Bool.or_eq_true, decide_eq_true_eq, isStart_iff, or_assoc, or_left_comm]

theorem isIdentifier_iff (chars : List Char) : isIdentifier chars = true ↔ IsIdentifier chars := by
  cases chars with
  | nil => simp [isIdentifier, IsIdentifier]
  | cons first rest =>
      rw [isIdentifier, Bool.and_eq_true, List.all_eq_true, isStart_iff]
      simp only [isContinuation_iff]
      constructor
      · rintro ⟨start, later⟩
        exact ⟨first, rest, rfl, start, later⟩
      · rintro ⟨_, _, ⟨⟩, start, later⟩
        exact ⟨start, later⟩

/-- No identifier has a dot in it. -/
theorem IsIdentifier.no_dot {chars : List Char} (identifier : IsIdentifier chars) :
    ∀ c ∈ chars, c ≠ '.' := by
  obtain ⟨first, rest, rfl, start, later⟩ := identifier
  rw [List.forall_mem_cons]
  constructor
  · rintro rfl
    exact absurd start (by decide)
  · rintro c member rfl
    exact absurd (later _ member) (by decide)

/-! ### Type names -/

theorem span_of_no_dot {chars : List Char} (no_dot : ∀ c ∈ chars, c ≠ '.') (rest : List Char) :
    chars.span (· ≠ '.') = (chars, []) ∧
      (chars ++ '.' :: rest).span (· ≠ '.') = (chars, '.' :: rest) := by
  have all : ∀ c ∈ chars, decide (c ≠ '.') = true := by simpa using no_dot
  constructor
  · rw [List.span_eq_takeWhile_dropWhile, List.takeWhile_eq_self_iff.mpr all,
      List.dropWhile_eq_nil_iff.mpr all]
  · rw [List.span_eq_takeWhile_dropWhile, List.takeWhile_append_of_pos all,
      List.dropWhile_append_of_pos all]
    simp

/-- The type names are the plain ones. -/
theorem isTypeName_iff (text : String) : isTypeName text = true ↔ IsPlain text := by
  rw [isTypeName, isTypeNameChars, IsPlain]
  constructor
  · intro accepted
    have whole := List.takeWhile_append_dropWhile (p := fun c => decide (c ≠ '.'))
      (l := text.toList)
    rw [List.span_eq_takeWhile_dropWhile] at accepted
    cases later : text.toList.dropWhile (fun c => decide (c ≠ '.')) with
    | nil =>
        rw [later] at accepted whole
        rw [List.append_nil] at whole
        rw [whole] at accepted
        exact .inl ((isIdentifier_iff _).mp accepted)
    | cons dot second =>
        have marks : dot = '.' := by
          have stopped := List.head?_dropWhile_not (fun c => decide (c ≠ '.')) text.toList
          rw [later] at stopped
          simpa using stopped
        subst marks
        rw [later] at accepted whole
        obtain ⟨first, last⟩ := (Bool.and_eq_true _ _).mp accepted
        exact .inr ⟨_, second, whole.symm, (isIdentifier_iff _).mp first,
          (isIdentifier_iff _).mp last⟩
  · rintro (single | ⟨qualifier, name, parts, first, second⟩)
    · rw [(span_of_no_dot single.no_dot []).1]
      exact (isIdentifier_iff _).mpr single
    · rw [parts, (span_of_no_dot first.no_dot name).2]
      simp [isIdentifier_iff, first, second]

instance (text : String) : Decidable (IsPlain text) := decidable_of_iff _ (isTypeName_iff text)

end RowFilter.TypeName
