import Mathlib.Data.List.TakeDrop
import RowFilter.Proofs.Schema.Registry
import RowFilter.Proofs.Sql.Grammar
import RowFilter.Proofs.Sql.Numerals
import RowFilter.Sql.Literal

/-!
# Literals as tokens

A literal of a field is written as one operand: a text, a numeral, a truth value, or a text with a
cast behind it. Two of the forms are written without quotes around all of it. A double is finite, so
it is a numeral; and the type of a cast was checked when the registry was built, so it is a type
name and ends where the type name ends.
-/

namespace RowFilter.Sql

open RowFilter.Filter RowFilter.Schema

private theorem isIdentifier_chars {chars : List Char}
    (identifier : TypeName.isIdentifier chars = true) :
    ∀ c ∈ chars, TypeName.isContinuation c = true := by
  cases chars with
  | nil => simp
  | cons c rest =>
      simp only [TypeName.isIdentifier, Bool.and_eq_true, List.all_eq_true] at identifier
      refine List.forall_mem_cons.mpr ⟨?_, identifier.2⟩
      rw [TypeName.isContinuation, identifier.1]
      rfl

/-- A type name holds nothing but characters of identifiers and dots. -/
theorem isTypeNameChars_chars {chars : List Char} (named : TypeName.isTypeNameChars chars = true) :
    ∀ c ∈ chars, (TypeName.isContinuation c || c = '.') = true := by
  unfold TypeName.isTypeNameChars at named
  have parts : (chars.span (· ≠ '.')).1 ++ (chars.span (· ≠ '.')).2 = chars := by
    rw [List.span_eq_takeWhile_dropWhile]
    exact List.takeWhile_append_dropWhile
  have dot : ∀ c ∈ (chars.span (· ≠ '.')).2.head?, c = '.' := by
    intro c hc
    rw [List.span_eq_takeWhile_dropWhile] at hc
    have stopped := List.head?_dropWhile_not (fun d : Char => decide (d ≠ '.')) chars
    rw [hc] at stopped
    simpa using stopped
  generalize chars.span (· ≠ '.') = span at named parts dot
  obtain ⟨first, rest⟩ := span
  rw [← parts]
  intro c hc
  cases rest with
  | nil =>
      rw [List.append_nil] at hc
      simp [isIdentifier_chars named c hc]
  | cons d second =>
      obtain ⟨firstNamed, secondNamed⟩ := Bool.and_eq_true_iff.mp named
      have d_dot : d = '.' := dot d rfl
      rcases List.mem_append.mp hc with early | late
      · simp [isIdentifier_chars firstNamed c early]
      · rcases List.mem_cons.mp late with rfl | later
        · simp [d_dot]
        · simp [isIdentifier_chars secondNamed c later]

private theorem cast_extend (label soFar : List Char) (c : Char)
    (hc : (TypeName.isContinuation c || c = '.') = true) :
    (Reading.cast label soFar).extend c = some (.cast label (soFar ++ [c])) := by
  rw [Reading.extend, if_pos hc]

/-- A text with a cast to a type name is read as the text and the cast. -/
theorem spells_cast (label : String) {type : String} (named : TypeName.isTypeName type = true) :
    Spells (textLiteral label ++ "::" ++ type).toList [.text label, .cast type] := by
  have chars : (textLiteral label ++ "::" ++ type).toList =
      '\'' :: (Text.replaceChar '\'' ['\'', '\''] label.toList ++
        '\'' :: ':' :: ':' :: type.toList) := by
    simp [textLiteral, quoteChars]
  have quoted :
      (Text.replaceChar '\'' ['\'', '\''] label.toList).foldlM Reading.extend (.quoted .single []) =
      some (.quoted .single label.toList) := foldlM_extend_quoted .single [] label.toList
  have typed :
      ('\'' :: ':' :: ':' :: type.toList).foldlM Reading.extend (.quoted .single label.toList) =
      some (.cast label.toList type.toList) :=
    foldlM_extend (cast_extend label.toList) [] (isTypeNameChars_chars named)
  have finished : (Reading.cast label.toList type.toList).finish =
      some [.text label, .cast type] := by
    have chars_named : TypeName.isTypeNameChars type.toList = true := named
    rw [Reading.finish, if_pos chars_named, String.ofList_toList, String.ofList_toList]
  rw [chars]
  refine spells_of_run rfl ?_ finished rfl
  rw [List.foldlM_append, quoted]
  exact typed

namespace Literal

/-- The tokens of a literal. -/
def tokens : Literal → List Token
  | .text s => [.text s]
  | .integer n => [.numeral (toString n.toInt)]
  | .double x => [.numeral x.display]
  | .boolean b => [.keyword (if b then .yes else .no)]
  | .cast label type => [.text label, .cast type]

/-- The operand as which a literal is read. -/
def operand : Literal → Operand
  | .text s => .text s
  | .integer n => .numeral (toString n.toInt)
  | .double x => .numeral x.display
  | .boolean b => .boolean b
  | .cast label _ => .text label

/-- Whether a literal can be written down: doubles are finite, and casts are to type names. -/
def WellFormed : Literal → Prop
  | .double x => x.isFinite = true
  | .cast _ type => TypeName.isTypeName type = true
  | _ => True

/-- A well-formed literal is written as its tokens. -/
theorem spells_write {literal : Literal} (wellFormed : literal.WellFormed) :
    Spells literal.write.toList literal.tokens := by
  cases literal with
  | text s => exact spells_textLiteral s
  | integer n =>
      have spells := spells_numeral (isNumeral_int n.toInt)
      rwa [String.ofList_toList] at spells
  | double x =>
      have spells := spells_numeral (isNumeral_display wellFormed)
      rwa [String.ofList_toList] at spells
  | boolean b => cases b <;> exact spells_of_run rfl rfl rfl rfl
  | cast label type => exact spells_cast label wellFormed

/-- The tokens of a literal are read as its operand. -/
theorem denotes_operand (literal : Literal) : Denotes literal.tokens literal.operand := by
  cases literal with
  | boolean b => cases b <;> exact ⟨_, rfl, rfl⟩
  | _ => exact ⟨_, rfl, rfl⟩

end Literal

/-- A value that a field renders is written down as a well-formed literal. -/
theorem wellFormed_of_literal? {field : Field}
    (typed : ∀ type, field.enumType = some type → TypeName.isTypeName type = true) {value : Value}
    {literal : Literal} (rendered : literal? field value = some literal) : literal.WellFormed := by
  unfold literal? at rendered
  split at rendered
  · simp at rendered
  · simp at rendered
  · cases rendered
    trivial
  · cases rendered
    trivial
  · split at rendered
    · rename_i finite
      cases rendered
      exact finite
    · simp at rendered
  · simp at rendered
  · cases rendered
    trivial
  · simp at rendered
  · obtain ⟨instant, _, rfl⟩ := Option.map_eq_some_iff.mp rendered
    trivial
  · obtain ⟨text, _, rfl⟩ := Option.map_eq_some_iff.mp rendered
    trivial
  · obtain ⟨label, _, rfl⟩ := Option.map_eq_some_iff.mp rendered
    cases cast : field.enumType with
    | none => trivial
    | some type => exact typed type cast

end RowFilter.Sql
