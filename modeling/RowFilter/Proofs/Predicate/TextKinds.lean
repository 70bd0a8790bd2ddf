import RowFilter.Predicate.Comparison
import RowFilter.Proofs.Number.Digits
import RowFilter.Proofs.Text.Utf8
import RowFilter.Proofs.Uuid

/-!
# Kinds of texts

Two texts are put in order by what they look like: dates by instant, identifiers without regard to
case, all others by character. No text looks like both a date and an identifier. So every text is of
one kind, each kind has an order of its own, and texts of different kinds compare by character.
-/

namespace RowFilter.Uuid

open Text

/-- A hexadecimal digit is no white space and no sign. -/
theorem plain_of_isHex {c : Char} (digit : isHex c = true) :
    isBlank c = false ∧ c ≠ '-' ∧ c ≠ '+' :=
  forall_ascii (P := fun c => isHex c = true → isBlank c = false ∧ c ≠ '-' ∧ c ≠ '+')
    (by decide +kernel) (toNat_lt_of_isHex digit) digit

end RowFilter.Uuid

namespace RowFilter.Calendar

open Number Text Uuid

/-- A number ends within the digits that it may have. -/
theorem exists_drop_of_scanNumber {fewest most n : Nat} {text rest : List Char}
    (scan : scanNumber fewest most text = some (n, rest)) : ∃ k ≤ most, rest = text.drop k := by
  rw [scanNumber, Option.map_eq_some_iff] at scan
  obtain ⟨⟨digits, after⟩, scan, same⟩ := scan
  obtain ⟨-, rfl⟩ := Prod.mk.inj same
  unfold scanDigits at scan
  dsimp only at scan
  split_ifs at scan
  obtain ⟨rfl, rfl⟩ := Prod.mk.inj (Option.some.inj scan)
  refine ⟨_, ?_, rfl⟩
  exact Nat.le_trans (length_spanDigits_le _) (List.length_take_le _ _)

theorem trim_eq_self {text : List Char} (visible : ∀ c ∈ text, isBlank c = false) :
    trim text = text := by
  have kept {text : List Char} (visible : ∀ c ∈ text, isBlank c = false) :
      text.dropWhile isBlank = text := by
    cases text with
    | nil => rfl
    | cons c rest => rw [List.dropWhile_cons_of_neg (by simp [visible c List.mem_cons_self])]
  rw [trim, trimLeft, kept visible, trimRight, kept (by simpa using visible), List.reverse_reverse]

/-- A text that starts with eight hexadecimal digits is no date: a year without a sign has at most
four digits, and a hyphen follows it. -/
theorem readChars?_of_hex {digits rest : List Char} (hex : ∀ c ∈ digits, isHex c = true)
    (long : digits.length = 8) : readChars? (digits ++ rest) = none := by
  have noHyphen : ∀ k ≤ 4, scanChar '-' ((digits ++ rest).drop k) = none := by
    intro k few
    have inside : k < digits.length := by omega
    rw [List.drop_append_of_le_length (Nat.le_of_lt inside), List.drop_eq_getElem_cons inside,
      List.cons_append, scanChar]
    exact if_neg (plain_of_isHex (hex _ (List.getElem_mem inside))).2.1
  have noNumber (fewest : Nat) :
      ((scanNumber fewest 4 (digits ++ rest)).bind fun scan => scanChar '-' scan.2) = none := by
    rw [Option.bind_eq_none_iff]
    rintro ⟨n, after⟩ scan
    obtain ⟨k, few, rfl⟩ := exists_drop_of_scanNumber scan
    exact noHyphen k few
  have noYear : scanYear (digits ++ rest) =
      (scanNumber 1 4 (digits ++ rest)).map fun scan => ((scan.1 : Int), scan.2) := by
    obtain ⟨first, digits, rfl⟩ := List.exists_cons_of_length_pos (l := digits) (by omega)
    obtain ⟨visible, noMinus, noPlus⟩ := plain_of_isHex (hex first List.mem_cons_self)
    have kept : trimLeft (first :: digits ++ rest) = first :: digits ++ rest := by
      rw [trimLeft, List.cons_append, List.dropWhile_cons_of_neg (by simp [visible])]
    unfold scanYear
    rw [kept]
    split
    · rename_i sign
      exact absurd (List.cons.inj sign).1 noMinus
    · rename_i sign
      exact absurd (List.cons.inj sign).1 noPlus
    · rfl
  have noDate : scanDate (digits ++ rest) = none := by
    rw [scanDate, noYear, Option.bind_eq_bind, Option.bind_eq_none_iff]
    rintro ⟨year, after⟩ scan
    obtain ⟨⟨n, _⟩, number, same⟩ := Option.map_eq_some_iff.mp scan
    obtain ⟨-, rfl⟩ := Prod.mk.inj same
    have stop := Option.bind_eq_none_iff.mp (noNumber 1) _ number
    simp only [stop, Option.bind_eq_bind, Option.bind_none]
  have noTimestamp : readTimestamp? (digits ++ rest) = none := by
    rw [readTimestamp?, Option.bind_eq_bind, Option.bind_eq_none_iff]
    rintro ⟨year, after⟩ number
    have stop := Option.bind_eq_none_iff.mp (noNumber 4) _ number
    simp only [stop, Option.bind_eq_bind, Option.bind_none]
  simp only [readChars?, readDateTime?, readDate?, noTimestamp, noDate, Option.bind_eq_bind,
    Option.bind_none, HOrElse.hOrElse, OrElse.orElse, Option.orElse]

/-- No text looks like both a date and an identifier. -/
theorem read?_of_isUuid {text : String} (canonical : isUuid text = true) : read? text = none := by
  obtain ⟨a, b, c, d, e, whole, long, _, _, _, _, hex⟩ := groups_of_isUuid canonical
  simp only [List.forall_mem_append] at hex
  obtain ⟨⟨⟨⟨hexA, hexB⟩, hexC⟩, hexD⟩, hexE⟩ := hex
  have visible : ∀ c ∈ text.toList, isBlank c = false := by
    rw [whole]
    simp only [List.forall_mem_append, List.forall_mem_cons]
    exact ⟨fun c member => (plain_of_isHex (hexA c member)).1, by decide,
      fun c member => (plain_of_isHex (hexB c member)).1, by decide,
      fun c member => (plain_of_isHex (hexC c member)).1, by decide,
      fun c member => (plain_of_isHex (hexD c member)).1, by decide,
      fun c member => (plain_of_isHex (hexE c member)).1⟩
  rw [read?, trim_eq_self visible, whole]
  exact readChars?_of_hex hexA long

end RowFilter.Calendar

namespace RowFilter.Comparison

open Std

/-- What a text looks like. -/
inductive Kind where
  /-- A date. -/
  | date
  /-- An identifier. -/
  | identifier
  /-- Any other text. -/
  | other
  deriving DecidableEq

namespace Kind

/-- The kind of a text. -/
def of (text : String) : Kind :=
  if (Calendar.read? text).isSome then .date
  else if Uuid.isUuid text then .identifier
  else .other

/-- The instant of a text; of one that is no date, the start of 1970. -/
def instant (text : String) : Calendar.Instant := (Calendar.read? text).getD ⟨0, 0⟩

/-- The order of two texts of a kind. -/
def order : Kind → String → String → Ordering
  | .date => fun a b => (instant a).compare (instant b)
  | .identifier => compareOn Text.lowercase
  | .other => compare

instance trans_instants : TransCmp Calendar.Instant.compare :=
  inferInstanceAs (TransCmp (compareLex (compareOn Calendar.Instant.seconds)
    (compareOn Calendar.Instant.nanos)))

/-- Within a kind the order is a total preorder. -/
instance trans_order (kind : Kind) : TransCmp kind.order := by
  cases kind with
  | date =>
      exact {
        eq_swap := trans_instants.eq_swap
        isLE_trans := trans_instants.isLE_trans }
  | identifier => exact inferInstanceAs (TransCmp (compareOn Text.lowercase))
  | other => exact inferInstanceAs (TransCmp compare)

end Kind

theorem orderOfCharacters_eq_compare (a b : String) : orderOfCharacters a b = compare a b := rfl

/-- Texts of one kind are in the order of the kind, others in that of their characters. -/
theorem orderOfTexts_eq (a b : String) :
    orderOfTexts a b = if Kind.of a = Kind.of b then (Kind.of a).order a b else compare a b := by
  have apart {text : String} {date : Calendar.Instant} (read : Calendar.read? text = some date) :
      Uuid.isUuid text = false := by
    rw [Bool.eq_false_iff]
    intro canonical
    rw [Calendar.read?_of_isUuid canonical] at read
    cases read
  unfold orderOfTexts Kind.of
  cases first : Calendar.read? a with
  | some dateA =>
      cases second : Calendar.read? b with
      | some dateB => simp [Kind.order, Kind.instant, first, second]
      | none => cases other : Uuid.isUuid b <;>
          simp [apart first, orderOfCharacters_eq_compare]
  | none =>
      cases second : Calendar.read? b with
      | some dateB => cases other : Uuid.isUuid a <;>
          simp [apart second, orderOfCharacters_eq_compare]
      | none => cases Uuid.isUuid a <;> cases Uuid.isUuid b <;>
          simp [Kind.order, orderOfCharacters_eq_compare, compareOn]

/-- The order of two texts is turned around with them. -/
instance oriented_orderOfTexts : OrientedCmp orderOfTexts where
  eq_swap {a b} := by
    rw [orderOfTexts_eq a b, orderOfTexts_eq b a]
    by_cases same : Kind.of a = Kind.of b
    · rw [if_pos same, if_pos same.symm, same]
      exact OrientedCmp.eq_swap
    · rw [if_neg same, if_neg (Ne.symm same)]
      exact OrientedCmp.eq_swap

end RowFilter.Comparison
