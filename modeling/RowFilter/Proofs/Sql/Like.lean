import Mathlib.Data.List.Infix
import RowFilter.Predicate.Matching
import RowFilter.Proofs.Text.Parts
import RowFilter.Sql.Quoting

/-!
# Fitting patterns

How a database decides `ILIKE`: text and pattern are put in lower case, and the pattern is read as a
row of items. A percent sign stands for any characters, an underscore for one, a backslash takes the
next character literally, and every other character stands for itself.

An escaped text is read as exactly its characters, and lower-casing passes through the escapes,
because a backslash and the characters it escapes separate what stands around them. So a text fits
the pattern of an occurrence exactly if the occurrence is there.
-/

namespace RowFilter.Sql

open Text

/-- One item of a pattern. -/
inductive PatternItem where
  /-- Any characters, also none. -/
  | run
  /-- One character. -/
  | one
  /-- This character. -/
  | char (c : Char)
  deriving DecidableEq, Repr

/-- The item for which a character stands that is not escaped. -/
def PatternItem.ofChar (c : Char) : PatternItem :=
  if c = '%' then .run else if c = '_' then .one else .char c

/-- The items of a pattern, read on from a character that is escaped or not; none if nothing stands
behind an escape. -/
def readPatternFrom : (escaped : Bool) → List Char → Option (List PatternItem)
  | false, [] => some []
  | true, [] => none
  | true, c :: rest => (readPatternFrom false rest).map (.char c :: ·)
  | false, c :: rest =>
    if c = '\\' then readPatternFrom true rest
    else (readPatternFrom false rest).map (PatternItem.ofChar c :: ·)

/-- The items of a pattern. -/
def readPattern (pattern : List Char) : Option (List PatternItem) := readPatternFrom false pattern

/-- Whether a text fits the items of a pattern. -/
def fits : List PatternItem → List Char → Bool
  | [], text => text.isEmpty
  | .run :: items, text => text.tails.any (fits items)
  | .one :: _, [] => false
  | .one :: items, _ :: text => fits items text
  | .char _ :: _, [] => false
  | .char c :: items, d :: text => c == d && fits items text

/-- Whether a text fits a pattern, both in lower case. -/
def matchesPattern (pattern text : String) : Bool :=
  (readPattern (lower pattern.toList)).any (fits · (lower text.toList))

/-! ### Escaped texts -/

/-- An escaped text is read as its characters, whatever follows. -/
theorem readPatternFrom_escape_append (text rest : List Char) :
    readPatternFrom false (escapePatternChars text ++ rest) =
      (readPatternFrom false rest).map (text.map .char ++ ·) := by
  induction text with
  | nil => simp [escapePatternChars]
  | cons c text ih =>
      have read : readPatternFrom false ((if isPatternChar c then ['\\', c] else [c]) ++
          (escapePatternChars text ++ rest)) =
            (readPatternFrom false (escapePatternChars text ++ rest)).map (.char c :: ·) := by
        by_cases hc : isPatternChar c = true
        · rw [if_pos hc]
          rfl
        · rw [if_neg hc]
          simp only [isPatternChar, Bool.or_eq_true, decide_eq_true_eq, not_or] at hc
          obtain ⟨⟨notEscape, notRun⟩, notOne⟩ := hc
          simp [readPatternFrom, PatternItem.ofChar, notEscape, notRun, notOne]
      rw [escapePatternChars, List.flatMap_cons, ← escapePatternChars, List.append_assoc, read, ih,
        Option.map_map]
      rfl

/-- Characters fit in front of the rest of a pattern if the text begins with them and the rest fits
what follows. -/
theorem fits_chars_append (chars : List Char) (items : List PatternItem) (text : List Char) :
    fits (chars.map .char ++ items) text = true ↔
      ∃ rest, text = chars ++ rest ∧ fits items rest = true := by
  induction chars generalizing text with
  | nil => simp
  | cons c chars ih =>
      rw [List.map_cons, List.cons_append]
      cases text with
      | nil => simp [fits]
      | cons d text =>
          rw [fits, Bool.and_eq_true, beq_iff_eq, ih text, eq_comm]
          simp only [List.cons_append, List.cons.injEq, and_assoc, exists_and_left]

/-- Anything fits in front of the rest of a pattern if the rest fits some end of the text. -/
theorem fits_run (items : List PatternItem) (text : List Char) :
    fits (.run :: items) text = true ↔ ∃ rest, rest <:+ text ∧ fits items rest = true := by
  simp only [fits, List.any_eq_true, List.mem_tails]

theorem fits_nil (text : List Char) : fits [] text = true ↔ text = [] := by
  rw [fits, List.isEmpty_iff]

theorem fits_run_alone (text : List Char) : fits [.run] text = true :=
  (fits_run [] text).mpr ⟨[], List.nil_suffix, rfl⟩

theorem fits_chars (chars text : List Char) :
    fits (chars.map .char) text = true ↔ text = chars := by
  have split := fits_chars_append chars [] text
  simp only [List.append_nil, fits_nil] at split
  rw [split]
  constructor
  · rintro ⟨rest, rfl, rfl⟩
    exact List.append_nil chars
  · intro same
    exact ⟨[], by rw [List.append_nil, same], rfl⟩

theorem fits_chars_run (chars text : List Char) :
    fits (chars.map .char ++ [.run]) text = true ↔ chars <+: text := by
  rw [fits_chars_append]
  constructor
  · rintro ⟨rest, rfl, _⟩
    exact List.prefix_append chars rest
  · rintro ⟨rest, rfl⟩
    exact ⟨rest, rfl, fits_run_alone rest⟩

/-! ### The patterns of occurrences -/

/-- The items of the pattern of an occurrence. -/
def occurrenceItems (chars : List Char) : Occurrence → List PatternItem
  | .anywhere => .run :: (chars.map .char ++ [.run])
  | .atStart => chars.map .char ++ [.run]
  | .atEnd => .run :: chars.map .char

/-- A text fits the items of an occurrence exactly if the occurrence is there. -/
theorem fits_occurrenceItems (occurrence : Occurrence) (part whole : List Char) :
    fits (occurrenceItems part occurrence) whole =
      match occurrence with
      | .anywhere => occursIn part whole
      | .atStart => startsWith part whole
      | .atEnd => endsWith part whole := by
  rw [Bool.eq_iff_iff]
  cases occurrence with
  | anywhere =>
      rw [occurrenceItems, fits_run, occursIn_iff, List.infix_iff_prefix_suffix]
      simp only [fits_chars_run, and_comm]
  | atStart => rw [occurrenceItems, fits_chars_run, startsWith_iff]
  | atEnd =>
      rw [occurrenceItems, fits_run, endsWith_iff]
      simp only [fits_chars, exists_eq_right]

/-- The characters of the pattern of an occurrence. -/
theorem toList_pattern (occurrence : Occurrence) (text : String) :
    (pattern occurrence text).toList =
      match occurrence with
      | .anywhere => '%' :: (escapePatternChars text.toList ++ ['%'])
      | .atStart => escapePatternChars text.toList ++ ['%']
      | .atEnd => '%' :: escapePatternChars text.toList := by
  cases occurrence <;> simp [pattern, escapePattern]

/-- The pattern of an occurrence is read as a run on each side that is left open and the characters
of the text. -/
theorem readPattern_pattern (occurrence : Occurrence) (text : String) :
    readPattern (pattern occurrence text).toList =
      some (occurrenceItems text.toList occurrence) := by
  have escaped := readPatternFrom_escape_append text.toList
  rw [readPattern, toList_pattern]
  cases occurrence with
  | anywhere =>
      have read : readPatternFrom false ('%' :: (escapePatternChars text.toList ++ ['%'])) =
          (readPatternFrom false (escapePatternChars text.toList ++ ['%'])).map (.run :: ·) := rfl
      rw [read, escaped]
      rfl
  | atStart => exact escaped ['%']
  | atEnd =>
      have alone := escaped []
      rw [List.append_nil] at alone
      have read : readPatternFrom false ('%' :: escapePatternChars text.toList) =
          (readPatternFrom false (escapePatternChars text.toList)).map (.run :: ·) := rfl
      rw [read, alone]
      simp [readPatternFrom, occurrenceItems]

/-! ### Lower case of patterns -/

/-- A character with a meaning in patterns separates what stands around it. -/
theorem isBarrier_of_isPatternChar {c : Char} (hc : isPatternChar c = true) : IsBarrier c := by
  simp only [isPatternChar, Bool.or_eq_true, decide_eq_true_eq] at hc
  rcases hc with (rfl | rfl) | rfl <;> exact ⟨by decide, by decide, by decide⟩

/-- Lower-casing brings forth no character with a meaning in patterns. -/
theorem isPatternChar_of_mem_lowerChar {c d : Char} (hc : isPatternChar c = false)
    (hd : d ∈ lowerChar c) :
    isPatternChar d = false := by
  rcases lowerChar_bound hd with rfl | zero | small
  · exact hc
  all_goals
    rw [Bool.eq_false_iff]
    intro special
    simp only [isPatternChar, Bool.or_eq_true, decide_eq_true_eq] at special
    rcases special with (rfl | rfl) | rfl
  · exact absurd zero (by decide)
  · exact absurd zero (by decide)
  · exact absurd zero (by decide)
  · exact absurd small (by decide)
  · exact absurd small (by decide)
  · exact absurd small (by decide)

theorem escapePatternChars_append (first second : List Char) :
    escapePatternChars (first ++ second) = escapePatternChars first ++ escapePatternChars second :=
  List.flatMap_append

theorem escapePatternChars_of_plain {chars : List Char}
    (plain : ∀ c ∈ chars, isPatternChar c = false) :
    escapePatternChars chars = chars := by
  induction chars with
  | nil => rfl
  | cons c chars ih =>
      have hc := plain c List.mem_cons_self
      rw [escapePatternChars, List.flatMap_cons, ← escapePatternChars,
        ih fun other hother => plain other (List.mem_cons_of_mem c hother), hc]
      rfl

theorem escapePatternChars_cons_plain {c : Char} (plain : isPatternChar c = false)
    (text : List Char) :
    escapePatternChars (c :: text) = c :: escapePatternChars text := by
  rw [escapePatternChars, List.flatMap_cons, plain]
  rfl

theorem escapePatternChars_cons_special {c : Char} (special : isPatternChar c = true)
    (text : List Char) :
    escapePatternChars (c :: text) = '\\' :: c :: escapePatternChars text := by
  rw [escapePatternChars, List.flatMap_cons, special]
  rfl

/-- Whether a text leads to a cased character is the same for the escaped text in front of an open
end. -/
theorem leadsToCased_escape (text : List Char) {tail : List Char}
    (uncased : leadsToCased tail = false) :
    leadsToCased (escapePatternChars text ++ tail) = leadsToCased text := by
  induction text with
  | nil => exact uncased
  | cons c text ih =>
      by_cases hc : isPatternChar c = true
      · rw [escapePatternChars_cons_special hc, List.cons_append,
          (isBarrier_of_isPatternChar rfl).leadsToCased_cons,
          (isBarrier_of_isPatternChar hc).leadsToCased_cons]
      · rw [escapePatternChars_cons_plain (Bool.eq_false_iff.mpr hc), List.cons_append]
        exact leadsToCased_cons_congr c ih

/-- Escaping and lower-casing can be exchanged. -/
theorem lowerAfter_escape (before text : List Char) {tail : List Char}
    (uncased : leadsToCased tail = false) (kept : ∀ before, lowerAfter before tail = tail) :
    lowerAfter before (escapePatternChars text ++ tail) =
      escapePatternChars (lowerAfter before text) ++ tail := by
  induction text generalizing before with
  | nil => exact kept before
  | cons c text ih =>
      by_cases hc : isPatternChar c = true
      · have barrier := isBarrier_of_isPatternChar hc
        have escape : IsBarrier '\\' := isBarrier_of_isPatternChar rfl
        rw [escapePatternChars_cons_special hc, List.cons_append, List.cons_append,
          escape.lowerAfter_cons, barrier.lowerAfter_cons, ih, barrier.lowerAfter_cons,
          escapePatternChars_cons_special hc]
        rfl
      · -- Only a final sigma looks at what follows, and there the escapes make no difference.
        have plain := Bool.eq_false_iff.mpr hc
        have sigma : lowerSigma before (escapePatternChars text ++ tail) =
            lowerSigma before text := by
          rw [lowerSigma, lowerSigma, leadsToCased_escape text uncased]
        have unchanged : ∀ d ∈ (if c.toNat = 0x3A3 then [lowerSigma before text] else lowerChar c),
            isPatternChar d = false := by
          intro d hd
          split at hd
          · rw [List.mem_singleton, lowerSigma] at hd
            rw [hd]
            split <;> decide
          · exact isPatternChar_of_mem_lowerChar plain hd
        rw [escapePatternChars_cons_plain plain, List.cons_append, lowerAfter, lowerAfter, sigma,
          ih, escapePatternChars_append, escapePatternChars_of_plain unchanged, List.append_assoc]

/-- The lower case of the pattern of an occurrence is the pattern of the text in lower case. -/
theorem lower_pattern (occurrence : Occurrence) (text : String) :
    lower (pattern occurrence text).toList = (pattern occurrence (lowercase text)).toList := by
  have run : IsBarrier '%' := isBarrier_of_isPatternChar rfl
  have before : ∀ tail, lowerAfter [] ('%' :: tail) = '%' :: lowerAfter [] tail :=
    run.lowerAfter_cons []
  have alone : lowerAfter [] (escapePatternChars text.toList) =
      escapePatternChars (lower text.toList) := by
    have commuted := lowerAfter_escape [] text.toList leadsToCased_nil fun _ => rfl
    rwa [List.append_nil, List.append_nil] at commuted
  have followed : lowerAfter [] (escapePatternChars text.toList ++ ['%']) =
      escapePatternChars (lower text.toList) ++ ['%'] :=
    lowerAfter_escape [] text.toList (run.leadsToCased_cons []) fun before =>
      run.lowerAfter_cons before []
  rw [toList_pattern, toList_pattern, lower, lowercase, String.toList_ofList]
  cases occurrence with
  | anywhere => exact (before _).trans (congrArg _ followed)
  | atStart => exact followed
  | atEnd => exact (before _).trans (congrArg _ alone)

/-- A text fits the pattern of an occurrence exactly if the occurrence is there, without regard to
case. -/
theorem matchesPattern_pattern (occurrence : Occurrence) (part whole : String) :
    matchesPattern (pattern occurrence part) whole = Predicate.occurs occurrence part whole := by
  rw [matchesPattern, lower_pattern, readPattern_pattern, Option.any_some, fits_occurrenceItems,
    lowercase, String.toList_ofList]
  cases occurrence <;> rfl

end RowFilter.Sql
