import RowFilter.Predicate.Matching
import RowFilter.Proofs.Text.Parts

/-!
# Searching for what is there

A search looks for the lower case of a text in the lower case of a column. Where the text stands in
the column character for character it is found, with one exception: a capital sigma is lower-cased
by what stands around it, so one at the edge of the text may take another form in the column.
-/

namespace RowFilter.Predicate

open RowFilter.Text

/-- A search on a column with a text is decided on the lower cases of both texts. -/
theorem holds_search {record : Record} {field whole : String}
    (column : record.lookup field = some (.string whole)) (occurrence : Occurrence)
    (part : String) :
    (search field occurrence part).holds record = occurs occurrence part whole := by
  have present : column? record field = some (.string whole) := by
    rw [column?, column]
    rfl
  rw [holds, present]

/-- A text that stands in a column is found there if it keeps its capital sigmas. One that the
column starts with, or ends with, is found there exactly if it does. A text without a capital sigma
keeps all of them, and so does every text that has no letter next to it in the column. -/
theorem search_of_exact_part {record : Record} {field part whole : String}
    (column : record.lookup field = some (.string whole)) :
    (∀ before after, whole.toList = before ++ part.toList ++ after →
      KeepsSigmas before part.toList after →
        (search field .anywhere part).holds record = true) ∧
    (∀ after, whole.toList = part.toList ++ after →
      ((search field .atStart part).holds record = true ↔ KeepsSigmas [] part.toList after)) ∧
    (∀ before, whole.toList = before ++ part.toList →
      ((search field .atEnd part).holds record = true ↔ KeepsSigmas before part.toList [])) ∧
    ∀ before after, 'Σ' ∉ part.toList ∨
        (leadsToCased before.reverse = false ∧ leadsToCased after = false) →
      KeepsSigmas before part.toList after := by
  refine ⟨fun before after split keeps => ?_, fun after split => ?_, fun before split => ?_,
    fun before after kept => ?_⟩
  · rw [holds_search column, occurs, split]
    exact (occursIn_iff _ _).mpr (lower_infix_of_keepsSigmas keeps)
  · rw [holds_search column, occurs, split, ← lower_prefix_iff_keepsSigmas]
    exact startsWith_iff _ _
  · rw [holds_search column, occurs, split, ← lower_suffix_iff_keepsSigmas]
    exact endsWith_iff _ _
  · rcases kept with none | ⟨left, right⟩
    · exact keepsSigmas_of_not_mem none before after
    · exact keepsSigmas_of_uncased left right part.toList

/-- A row with a name of two words that both end in a sigma. -/
def sampleTwoWords : Record := [("name", .string "ΝΙΚΟΣ ΠΑΠΑΣ")]

/-- The first word of the name is found, because no letter follows its sigma in the name either. -/
theorem sample_words_found :
    (search "name" .atStart "ΝΙΚΟΣ").holds sampleTwoWords = true ∧
      (search "name" .anywhere "ΝΙΚΟΣ").holds sampleTwoWords = true := by
  have column : sampleTwoWords.lookup "name" = some (.string "ΝΙΚΟΣ ΠΑΠΑΣ") := rfl
  obtain ⟨anywhere, atStart, _, kept⟩ := @search_of_exact_part _ _ "ΝΙΚΟΣ" _ column
  have split : "ΝΙΚΟΣ ΠΑΠΑΣ".toList = "ΝΙΚΟΣ".toList ++ " ΠΑΠΑΣ".toList := by decide
  have apart : KeepsSigmas [] "ΝΙΚΟΣ".toList " ΠΑΠΑΣ".toList :=
    kept _ _ (.inr ⟨rfl, by decide +kernel⟩)
  exact ⟨(atStart _ split).mpr apart, anywhere [] _ split apart⟩

/-- A row with a name that has a sigma in the middle and at its end. -/
def sampleOneWord : Record := [("name", .string "ΟΔΥΣΣΕΑΣ")]

/-- The first letters of the name are not found in it, because their last sigma ends a word only
when they stand alone. Nor is the last letter found at the end, because it ends a word only
there. -/
theorem sample_letters_missed :
    ("ΟΔΥΣ".toList <+: "ΟΔΥΣΣΕΑΣ".toList ∧
      (search "name" .anywhere "ΟΔΥΣ").holds sampleOneWord = false ∧
      (search "name" .atStart "ΟΔΥΣ").holds sampleOneWord = false) ∧
    "Σ".toList <:+ "ΟΔΥΣΣΕΑΣ".toList ∧
      (search "name" .atEnd "Σ").holds sampleOneWord = false := by
  refine ⟨⟨by decide, by decide +kernel, by decide +kernel⟩, by decide, by decide +kernel⟩

end RowFilter.Predicate
