import Mathlib.Data.List.Forall2
import RowFilter.Proofs.Sql.Like

/-!
# Escaped patterns

What `LIKE` asks of a text, said without a matcher: the text falls into pieces, one for each item of
the pattern, and every piece is something that its item stands for. The matcher of patterns, which
tries every end of a text for a percent sign, decides exactly this.

Escaping a text is three replacements one after the other. Backslashes are doubled first, so that
those which are put before percent signs and underscores are not doubled again. What comes out
stands for the text and for nothing else, so the patterns that are open at one end or at both ask
for the text as a part.
-/

namespace RowFilter.Sql

open Text

/-! ### Texts in pieces -/

/-- Whether an item of a pattern stands for a row of characters. -/
def PatternItem.StandsFor : PatternItem → List Char → Prop
  | .run, _ => True
  | .one, piece => ∃ c, piece = [c]
  | .char c, piece => piece = [c]

/-- Whether a text falls into pieces for which the items of a pattern stand, one by one. -/
def FallsInto (items : List PatternItem) (text : List Char) : Prop :=
  ∃ pieces, List.Forall₂ PatternItem.StandsFor items pieces ∧ pieces.flatten = text

theorem fallsInto_nil_iff (text : List Char) : FallsInto [] text ↔ text = [] := by
  simp [FallsInto, List.forall₂_nil_left_iff, eq_comm]

/-- The first item takes a piece at the start of the text, and the others take the rest. -/
theorem fallsInto_cons_iff (item : PatternItem) (items : List PatternItem) (text : List Char) :
    FallsInto (item :: items) text ↔
      ∃ piece rest, text = piece ++ rest ∧ item.StandsFor piece ∧ FallsInto items rest := by
  constructor
  · rintro ⟨pieces, takes, rfl⟩
    obtain ⟨piece, others, first, later, rfl⟩ := List.forall₂_cons_left_iff.mp takes
    exact ⟨piece, others.flatten, List.flatten_cons, first, others, later, rfl⟩
  · rintro ⟨piece, _, rfl, first, others, later, rfl⟩
    exact ⟨piece :: others, .cons first later, List.flatten_cons⟩

/-- Trying every end of a text for a percent sign finds the pieces if there are any. -/
theorem fits_iff_fallsInto (items : List PatternItem) (text : List Char) :
    fits items text = true ↔ FallsInto items text := by
  induction items generalizing text with
  | nil => rw [fits_nil, fallsInto_nil_iff]
  | cons item items ih =>
      rw [fallsInto_cons_iff]
      cases item with
      | run =>
          rw [fits_run]
          constructor
          · rintro ⟨rest, ⟨piece, rfl⟩, later⟩
            exact ⟨piece, rest, rfl, trivial, (ih rest).mp later⟩
          · rintro ⟨piece, rest, rfl, _, later⟩
            exact ⟨rest, List.suffix_append piece rest, (ih rest).mpr later⟩
      | one =>
          cases text with
          | nil => simp [fits, PatternItem.StandsFor]
          | cons d text => simp [fits, PatternItem.StandsFor, ih]
      | char c =>
          cases text with
          | nil => simp [fits, PatternItem.StandsFor]
          | cons d text =>
              rw [fits, Bool.and_eq_true, beq_iff_eq, ih]
              constructor
              · rintro ⟨rfl, later⟩
                exact ⟨[c], text, rfl, rfl, later⟩
              · rintro ⟨_, rest, split, rfl, later⟩
                obtain ⟨same, rfl⟩ := List.cons.inj split
                exact ⟨same.symm, later⟩

/-- Whether a text is `LIKE` a pattern. Nothing is like a pattern that ends behind an escape. -/
def IsLike (text pattern : String) : Prop :=
  ∃ items, readPattern pattern.toList = some items ∧ FallsInto items text.toList

theorem isLike_iff (text pattern : String) :
    IsLike text pattern ↔ (readPattern pattern.toList).any (fits · text.toList) = true := by
  simp only [IsLike, Option.any_eq_true, fits_iff_fallsInto]

instance (text pattern : String) : Decidable (IsLike text pattern) :=
  decidable_of_iff _ (isLike_iff text pattern).symm

/-- A text is like a pattern that has been read if it falls into pieces for its items. -/
theorem isLike_of_read {pattern : String} {items : List PatternItem}
    (read : readPattern pattern.toList = some items) (text : String) :
    IsLike text pattern ↔ fits items text.toList = true := by
  rw [isLike_iff, read, Option.any_some]

/-! ### Escaping -/

/-- Escaping is done by three replacements, that of the backslash first. -/
theorem escapePatternChars_eq_replaceChar (text : List Char) :
    escapePatternChars text =
      replaceChar '_' ['\\', '_']
        (replaceChar '%' ['\\', '%'] (replaceChar '\\' ['\\', '\\'] text)) := by
  have each : ∀ c : Char, (if isPatternChar c then ['\\', c] else [c]) =
      replaceChar '_' ['\\', '_']
        (replaceChar '%' ['\\', '%'] (if c = '\\' then ['\\', '\\'] else [c])) := by
    intro c
    by_cases special : isPatternChar c = true
    · rw [if_pos special]
      simp only [isPatternChar, Bool.or_eq_true, decide_eq_true_eq] at special
      rcases special with (rfl | rfl) | rfl <;> rfl
    · rw [if_neg special]
      simp only [isPatternChar, Bool.or_eq_true, decide_eq_true_eq, not_or] at special
      obtain ⟨⟨notEscape, notRun⟩, notOne⟩ := special
      simp [replaceChar, notEscape, notRun, notOne]
  calc
    escapePatternChars text
        = text.flatMap fun c => replaceChar '_' ['\\', '_']
            (replaceChar '%' ['\\', '%'] (if c = '\\' then ['\\', '\\'] else [c])) :=
          List.flatMap_congr fun c _ => each c
    _ = replaceChar '_' ['\\', '_']
          (replaceChar '%' ['\\', '%'] (replaceChar '\\' ['\\', '\\'] text)) := by
        simp only [replaceChar, List.flatMap_assoc]

/-- An escaped text is read as its characters. -/
theorem readPattern_escapePattern (text : String) :
    readPattern (escapePattern text).toList = some (text.toList.map .char) := by
  have read := readPatternFrom_escape_append text.toList []
  rw [List.append_nil] at read
  rw [readPattern, escapePattern, String.toList_ofList, read]
  simp [readPatternFrom]

/-- A text is like the pattern of an occurrence exactly if the occurrence is there. -/
theorem isLike_pattern_iff (occurrence : Occurrence) (part text : String) :
    IsLike text (pattern occurrence part) ↔
      match occurrence with
      | .anywhere => part.toList <:+: text.toList
      | .atStart => part.toList <+: text.toList
      | .atEnd => part.toList <:+ text.toList := by
  rw [isLike_of_read (readPattern_pattern occurrence part), fits_occurrenceItems]
  cases occurrence with
  | anywhere => exact occursIn_iff _ _
  | atStart => exact startsWith_iff _ _
  | atEnd => exact endsWith_iff _ _

/-- An escaped text, made by three replacements, is read as the characters of the text: it ends
behind no escape and has no item that stands for anything else. So only the text itself is like it,
and the texts that are like it with a percent sign on both sides, behind it or before it are those
in which the text occurs, with which they begin or with which they end. -/
theorem isLike_escaped_iff (part : String) :
    (escapePattern part).toList =
      replaceChar '_' ['\\', '_']
        (replaceChar '%' ['\\', '%'] (replaceChar '\\' ['\\', '\\'] part.toList)) ∧
    readPattern (escapePattern part).toList = some (part.toList.map .char) ∧
    ∀ text : String,
      (IsLike text (escapePattern part) ↔ text = part) ∧
      (IsLike text ("%" ++ escapePattern part ++ "%") ↔ part.toList <:+: text.toList) ∧
      (IsLike text (escapePattern part ++ "%") ↔ part.toList <+: text.toList) ∧
      (IsLike text ("%" ++ escapePattern part) ↔ part.toList <:+ text.toList) := by
  refine ⟨?_, readPattern_escapePattern part, fun text => ⟨?_, ?_, ?_, ?_⟩⟩
  · rw [escapePattern, String.toList_ofList, escapePatternChars_eq_replaceChar]
  · rw [isLike_of_read (readPattern_escapePattern part), fits_chars, String.toList_inj]
  · exact isLike_pattern_iff .anywhere part text
  · exact isLike_pattern_iff .atStart part text
  · exact isLike_pattern_iff .atEnd part text

example : IsLike "100% of it" "100\\%%" ∧ ¬ IsLike "1000 of it" "100\\%%" := by decide

end RowFilter.Sql
