import Mathlib.Tactic.IntervalCases
import RowFilter.Json.Token
import RowFilter.Json.Writer
import RowFilter.Proofs.Filter.Folding
import RowFilter.Proofs.Text.Utf8

/-!
# Texts between quotes

A text that is written between quotes is read as itself: each character stands there as it is or as
an escape, and each escape is read as the character it stands for.
-/

namespace RowFilter.Json

open Text RowFilter.Filter

/-- Four digits of an escape for a character below the blank are read as its number. -/
theorem fourHexDigits?_of_lt {n : Nat} (lt : n < 0x20) (rest : Source) :
    fourHexDigits? (.char '0' :: .char '0' :: .char (hexDigit (n / 16)) ::
      .char (hexDigit (n % 16)) :: rest) = some (n, rest) := by
  interval_cases n <;> rfl

/-- An escape for a character below the blank is read as the character. -/
theorem escape_of_lt {c : Char} (lt : c.toNat < 0x20) (rest : Source) :
    escape (.char 'u' :: .char '0' :: .char '0' :: .char (hexDigit (c.toNat / 16)) ::
      .char (hexDigit (c.toNat % 16)) :: rest) = .ok (c, rest) := by
  have unit : codeUnit (.char '0' :: .char '0' :: .char (hexDigit (c.toNat / 16)) ::
      .char (hexDigit (c.toNat % 16)) :: rest) = .ok (c.toNat, rest) := by
    rw [codeUnit, fourHexDigits?_of_lt lt]
  have low : ¬ (decide (0xDC00 ≤ c.toNat) && decide (c.toNat ≤ 0xDFFF)) = true := by
    simp only [Bool.and_eq_true, decide_eq_true_eq]
    omega
  have plain : (decide (c.toNat < 0xD800) || decide (0xDBFF < c.toNat)) = true := by
    simp only [Bool.or_eq_true, decide_eq_true_eq]
    omega
  rw [escape, escapedCodePoint, unit, ok_bind]
  dsimp only
  rw [if_neg low, if_pos plain, Char.ofNat_toNat]
  rfl

/-- A character that is written between quotes is read as itself, before what is read after it. -/
theorem quotation_escapedChar {bound : Nat} {rest after : Source} {read : List Symbol}
    (later : quotation bound rest = .ok (read, after)) (c : Char) :
    quotation (bound + 1) ((escapedChar c).map .char ++ rest) = .ok (.char c :: read, after) := by
  have escaped : ∀ {text : Source}, escape text = .ok (c, rest) →
      quotation (bound + 1) (.char '\\' :: text) = .ok (.char c :: read, after) := by
    intro text done
    rw [quotation, if_neg (by decide), if_pos rfl, done, ok_bind]
    dsimp only
    rw [later]
    rfl
  unfold escapedChar
  split_ifs with quote backslash eight twelve feed carriage tab below
  · subst quote
    exact escaped rfl
  · subst backslash
    exact escaped rfl
  · obtain rfl : c = Char.ofNat 8 := by rw [← eight, Char.ofNat_toNat]
    exact escaped rfl
  · obtain rfl : c = Char.ofNat 12 := by rw [← twelve, Char.ofNat_toNat]
    exact escaped rfl
  · subst feed
    exact escaped rfl
  · subst carriage
    exact escaped rfl
  · subst tab
    exact escaped rfl
  · exact escaped (escape_of_lt below rest)
  · rw [List.map_singleton, List.singleton_append, quotation, if_neg quote, if_neg backslash,
      if_neg below, later]
    rfl

/-- The characters of a text, written between quotes, are read up to the closing quote. -/
theorem quotation_escapedChars (chars : List Char) (rest : Source) {bound : Nat}
    (enough : chars.length < bound) :
    quotation bound ((chars.flatMap escapedChar).map .char ++ .char '"' :: rest) =
      .ok (chars.map .char, rest) := by
  induction chars generalizing bound with
  | nil =>
      obtain ⟨less, rfl⟩ : ∃ less, bound = less + 1 := ⟨bound - 1, by simp at enough; omega⟩
      rfl
  | cons c chars ih =>
      rw [List.length_cons] at enough
      obtain ⟨less, rfl⟩ : ∃ less, bound = less + 1 := ⟨bound - 1, by omega⟩
      rw [List.flatMap_cons, List.map_append, List.append_assoc]
      exact quotation_escapedChar (ih (by omega)) c

theorem length_escapedChar_pos (c : Char) : 0 < (escapedChar c).length := by
  unfold escapedChar
  split_ifs <;> simp

/-- A text that is written between quotes is read as itself, after the opening quote. -/
theorem stringToken_escapedChars (text : String) (rest : Source) :
    stringToken ((text.toList.flatMap escapedChar).map .char ++ .char '"' :: rest) =
      .ok (text, rest) := by
  have enough : text.toList.length <
      ((text.toList.flatMap escapedChar).map Symbol.char ++ .char '"' :: rest).length + 1 := by
    have each : text.toList.length ≤ (text.toList.flatMap escapedChar).length := by
      induction text.toList with
      | nil => exact Nat.le_refl 0
      | cons c chars ih =>
          rw [List.flatMap_cons, List.length_append, List.length_cons]
          have := length_escapedChar_pos c
          omega
    rw [List.length_append, List.length_map]
    omega
  rw [stringToken, quotation_escapedChars text.toList rest enough, ok_bind]
  dsimp only
  rw [wellFormedChars?_map_char]
  dsimp only
  rw [String.ofList_toList]
  rfl

end RowFilter.Json
