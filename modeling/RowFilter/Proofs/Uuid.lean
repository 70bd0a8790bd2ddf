import RowFilter.Proofs.Text.Lowercase
import RowFilter.Uuid

/-!
# Canonical identifiers and their octets

The spelling that filters accept is one of those that are read where an identifier is sent to a
database. So an identifier that passes validation never fails there.

The octets of a canonical identifier are written as its lower case: writing undoes reading up to the
case of the digits. The lower case of a canonical identifier is canonical again.
-/

namespace RowFilter.Uuid

open Text

/-- Hexadecimal digits in an even number are octets. -/
theorem isSome_octetsOfHex? {chars : List Char} (hex : ∀ c ∈ chars, isHex c = true)
    (even : chars.length % 2 = 0) : (octetsOfHex? chars).isSome = true := by
  induction chars using octetsOfHex?.induct with
  | case1 => rfl
  | case2 c => simp at even
  | case3 high low rest ih =>
      rw [List.forall_mem_cons, List.forall_mem_cons] at hex
      obtain ⟨highHex, lowHex, restHex⟩ := hex
      have later := ih restHex (by simp only [List.length_cons] at even; omega)
      obtain ⟨h, hh⟩ := Option.isSome_iff_exists.mp highHex
      obtain ⟨l, hl⟩ := Option.isSome_iff_exists.mp lowHex
      obtain ⟨octets, hoctets⟩ := Option.isSome_iff_exists.mp later
      simp [octetsOfHex?, hh, hl, hoctets]

/-- What fits one row of places after another splits into what fits each. -/
theorem fits_append {first second : List Place} {chars : List Char}
    (fit : fits (first ++ second) chars = true) :
    ∃ before after, chars = before ++ after ∧ before.length = first.length ∧
      fits first before = true ∧ fits second after = true := by
  induction first generalizing chars with
  | nil => exact ⟨[], chars, rfl, rfl, rfl, fit⟩
  | cons place places ih =>
      cases chars with
      | nil => simp [fits] at fit
      | cons c rest =>
          rw [List.cons_append, fits, Bool.and_eq_true] at fit
          obtain ⟨before, after, rfl, same, firstFits, secondFits⟩ := ih fit.2
          refine ⟨c :: before, after, rfl, congrArg (· + 1) same, ?_, secondFits⟩
          rw [fits, fit.1, firstFits]
          rfl

theorem isHex_of_accepts {place : Place} (digit : place ≠ .hyphen) {c : Char}
    (accepted : place.accepts c = true) : isHex c = true := by
  cases place with
  | digit => exact accepted
  | hyphen => exact absurd rfl digit
  | version =>
      simp only [Place.accepts, Bool.and_eq_true, decide_eq_true_eq] at accepted
      have digits : ('0' ≤ c && c ≤ '9') = true := by
        rw [Bool.and_eq_true, decide_eq_true_eq, decide_eq_true_eq]
        exact ⟨Char.le_trans (by decide) accepted.1, Char.le_trans accepted.2 (by decide)⟩
      rw [isHex, hexValue?, if_pos digits]
      rfl
  | variant =>
      simp only [Place.accepts, Bool.or_eq_true, decide_eq_true_eq] at accepted
      rcases accepted with ((((rfl | rfl) | rfl) | rfl) | rfl) | rfl <;> rfl

theorem isHex_of_fits {places : List Place} (digits : ∀ place ∈ places, place ≠ .hyphen)
    {chars : List Char} (fit : fits places chars = true) : ∀ c ∈ chars, isHex c = true := by
  induction places generalizing chars with
  | nil =>
      cases chars with
      | nil => simp
      | cons c rest => simp [fits] at fit
  | cons place places ih =>
      cases chars with
      | nil => simp
      | cons c rest =>
          rw [fits, Bool.and_eq_true] at fit
          rw [List.forall_mem_cons] at digits ⊢
          exact ⟨isHex_of_accepts digits.1 fit.1, ih digits.2 fit.2⟩

theorem fits_hyphen {places : List Place} {chars : List Char}
    (fit : fits (.hyphen :: places) chars = true) :
    ∃ rest, chars = '-' :: rest ∧ fits places rest = true := by
  cases chars with
  | nil => simp [fits] at fit
  | cons c rest =>
      rw [fits, Bool.and_eq_true] at fit
      exact ⟨rest, by rw [show c = '-' by simpa [Place.accepts] using fit.1], fit.2⟩

/-- A canonical identifier is five groups of hexadecimal digits with hyphens between them. -/
theorem groups_of_isUuid {text : String} (canonical : isUuid text = true) :
    ∃ a b c d e : List Char,
      text.toList = a ++ '-' :: (b ++ '-' :: (c ++ '-' :: (d ++ '-' :: e))) ∧
      a.length = 8 ∧ b.length = 4 ∧ c.length = 4 ∧ d.length = 4 ∧ e.length = 12 ∧
      ∀ digit ∈ a ++ b ++ c ++ d ++ e, isHex digit = true := by
  have places : canonicalPlaces = List.replicate 8 Place.digit ++ Place.hyphen ::
      (List.replicate 4 Place.digit ++ Place.hyphen ::
        ((Place.version :: List.replicate 3 Place.digit) ++ Place.hyphen ::
          ((Place.variant :: List.replicate 3 Place.digit) ++
            Place.hyphen :: List.replicate 12 Place.digit))) := rfl
  rw [isUuid, places] at canonical
  obtain ⟨a, rest, whole, lengthA, fitA, canonical⟩ := fits_append canonical
  obtain ⟨rest, rfl, canonical⟩ := fits_hyphen canonical
  obtain ⟨b, rest, rfl, lengthB, fitB, canonical⟩ := fits_append canonical
  obtain ⟨rest, rfl, canonical⟩ := fits_hyphen canonical
  obtain ⟨c, rest, rfl, lengthC, fitC, canonical⟩ := fits_append canonical
  obtain ⟨rest, rfl, canonical⟩ := fits_hyphen canonical
  obtain ⟨d, rest, rfl, lengthD, fitD, canonical⟩ := fits_append canonical
  obtain ⟨e, rfl, fitE⟩ := fits_hyphen canonical
  have lengthE : e.length = 12 := by
    have last : fits (List.replicate 12 Place.digit ++ []) e = true := by
      rw [List.append_nil]
      exact fitE
    obtain ⟨before, after, rfl, same, _, none⟩ := fits_append last
    cases after with
    | nil => simpa using same
    | cons => simp [fits] at none
  refine ⟨a, b, c, d, e, whole, lengthA, lengthB, lengthC, lengthD, lengthE, ?_⟩
  simp only [List.forall_mem_append]
  exact ⟨⟨⟨⟨isHex_of_fits (by simp) fitA, isHex_of_fits (by simp) fitB⟩,
    isHex_of_fits (by simp) fitC⟩, isHex_of_fits (by simp) fitD⟩, isHex_of_fits (by simp) fitE⟩

/-- Groups of the canonical lengths with hyphens between them are read group by group. -/
theorem hyphenatedOctets?_groups {a b c d e : List Char} (lengthA : a.length = 8)
    (lengthB : b.length = 4) (lengthC : c.length = 4) (lengthD : d.length = 4)
    (lengthE : e.length = 12) :
    hyphenatedOctets? (a ++ '-' :: (b ++ '-' :: (c ++ '-' :: (d ++ '-' :: e)))) =
      octetsOfHex? (a ++ b ++ c ++ d ++ e) := by
  have hyphens : ∀ place ∈ [8, 13, 18, 23],
      (a ++ '-' :: (b ++ '-' :: (c ++ '-' :: (d ++ '-' :: e))))[place]? = some '-' := by
    simp [List.getElem?_append, lengthA, lengthB, lengthC, lengthD]
  simp only [List.forall_mem_cons] at hyphens
  obtain ⟨h8, h13, h18, h23, _⟩ := hyphens
  rw [hyphenatedOctets?, h8, h13, h18, h23]
  simp (disch := omega) [List.drop_append, List.drop_eq_nil_of_le, lengthA, lengthB, lengthC,
    lengthD, lengthE]

/-- A canonical identifier is in none of the other spellings. -/
theorem octets?_of_isUuid {text : String} (canonical : isUuid text = true) :
    octets? text = hyphenatedOctets? text.toList := by
  obtain ⟨a, b, c, d, e, whole, lengthA, lengthB, lengthC, lengthD, lengthE, hex⟩ :=
    groups_of_isUuid canonical
  have total : text.toList.length = 36 := by
    rw [whole]
    simp only [List.length_append, List.length_cons]
    omega
  -- The prefix of the longest spelling begins with a letter that is no digit.
  have no_urn : ("urn:uuid:".toList).isPrefixOf text.toList = false := by
    obtain ⟨first, a, rfl⟩ := List.exists_cons_of_ne_nil (List.ne_nil_of_length_pos
      (l := a) (by omega))
    have digit : isHex first = true := hex first (by simp)
    have other : ('u' == first) = false := by
      rw [beq_eq_false_iff_ne]
      rintro rfl
      exact absurd digit (by decide)
    have letters : "urn:uuid:".toList = 'u' :: "rn:uuid:".toList := by decide
    rw [whole, letters, List.cons_append, List.isPrefixOf_cons_cons, other, Bool.false_and]
  unfold octets?
  dsimp only
  rw [no_urn, simpleOctets?, total]
  simp

/-- A canonical identifier has octets. -/
theorem isSome_octets?_of_isUuid {text : String} (canonical : isUuid text = true) :
    (octets? text).isSome = true := by
  obtain ⟨a, b, c, d, e, whole, lengthA, lengthB, lengthC, lengthD, lengthE, hex⟩ :=
    groups_of_isUuid canonical
  rw [octets?_of_isUuid canonical, whole,
    hyphenatedOctets?_groups lengthA lengthB lengthC lengthD lengthE]
  exact isSome_octetsOfHex? hex (by simp only [List.length_append]; omega)

/-! ### Lower case -/

theorem toNat_lt_of_isHex {c : Char} (digit : isHex c = true) : c.toNat < 0x80 := by
  have below {last : Char} (upper : c ≤ last) (small : last.toNat < 0x80) : c.toNat < 0x80 :=
    Nat.lt_of_le_of_lt (UInt32.le_iff_toNat_le.mp upper) small
  unfold isHex hexValue? at digit
  split_ifs at digit with number lower upper
  · exact below (of_decide_eq_true ((Bool.and_eq_true _ _).mp number).2) (by decide)
  · exact below (of_decide_eq_true ((Bool.and_eq_true _ _).mp lower).2) (by decide)
  · exact below (of_decide_eq_true ((Bool.and_eq_true _ _).mp upper).2) (by decide)
  · cases digit

/-- The digit of a value is the lower case of every digit that has the value. -/
theorem hexDigit_of_hexValue? {c : Char} {value : Nat} (found : hexValue? c = some value) :
    value < 16 ∧ hexDigit value = c.toLower := by
  have ascii : c.toNat < 0x80 := toNat_lt_of_isHex (Option.isSome_iff_exists.mpr ⟨value, found⟩)
  exact forall_ascii
    (P := fun c => ∀ value ∈ hexValue? c, value < 16 ∧ hexDigit value = c.toLower)
    (by decide +kernel) ascii value found

/-- Octets that were read from digits are written as the lower case of the digits. -/
theorem flatMap_hexOctet_of_octetsOfHex? {chars : List Char} {octets : List UInt8}
    (found : octetsOfHex? chars = some octets) :
    octets.flatMap hexOctet = chars.map Char.toLower := by
  induction chars using octetsOfHex?.induct generalizing octets with
  | case1 =>
      obtain rfl := Option.some.inj found
      rfl
  | case2 c => cases found
  | case3 high low rest ih =>
      simp only [octetsOfHex?, Option.bind_eq_bind, Option.bind_eq_some_iff] at found
      obtain ⟨h, highFound, l, lowFound, later, laterFound, same⟩ := found
      obtain rfl := Option.some.inj same
      obtain ⟨_, highDigit⟩ := hexDigit_of_hexValue? highFound
      obtain ⟨_, lowDigit⟩ := hexDigit_of_hexValue? lowFound
      have value : (UInt8.ofNat (16 * h + l)).toNat = 16 * h + l :=
        toNat_ofNat_of_lt (by omega)
      have first : (16 * h + l) / 16 = h := by omega
      have second : (16 * h + l) % 16 = l := by omega
      rw [List.flatMap_cons, hexOctet, value, first, second, highDigit, lowDigit, ih laterFound]
      rfl

theorem length_flatMap_hexOctet (octets : List UInt8) :
    (octets.flatMap hexOctet).length = 2 * octets.length := by
  induction octets with
  | nil => rfl
  | cons octet rest ih =>
      rw [List.flatMap_cons, List.length_append, ih, List.length_cons, hexOctet]
      simp only [List.length_cons, List.length_nil]
      omega

/-- Digits are written in five groups with hyphens between them. -/
theorem textOfOctets_groups {octets : List UInt8} {a b c d e : List Char}
    (digits : octets.flatMap hexOctet = a ++ b ++ c ++ d ++ e) (lengthA : a.length = 8)
    (lengthB : b.length = 4) (lengthC : c.length = 4) (lengthD : d.length = 4) :
    (textOfOctets octets).toList =
      a ++ '-' :: (b ++ '-' :: (c ++ '-' :: (d ++ '-' :: e))) := by
  rw [textOfOctets, digits]
  simp (disch := omega) [List.drop_append, List.drop_eq_nil_of_le, lengthA, lengthB, lengthC]

/-- The lower case of what may stand at a place may stand there too. -/
theorem Place.accepts_toLower (place : Place) {c : Char} (accepted : place.accepts c = true) :
    c.toNat < 0x80 ∧ place.accepts c.toLower = true := by
  have ascii : c.toNat < 0x80 := by
    by_cases hyphen : place = .hyphen
    · subst hyphen
      rw [show c = '-' by simpa [accepts] using accepted]
      decide
    · exact toNat_lt_of_isHex (isHex_of_accepts hyphen accepted)
  refine ⟨ascii, forall_ascii
    (P := fun c => place.accepts c = true → place.accepts c.toLower = true) ?_ ascii accepted⟩
  cases place <;> decide +kernel

/-- What fits places one by one fits them in lower case too, and is of ASCII alone. -/
theorem fits_map_toLower {places : List Place} {chars : List Char}
    (fit : fits places chars = true) :
    (∀ c ∈ chars, c.toNat < 0x80) ∧ fits places (chars.map Char.toLower) = true := by
  induction places generalizing chars with
  | nil =>
      cases chars with
      | nil => simp [fits]
      | cons c rest => simp [fits] at fit
  | cons place places ih =>
      cases chars with
      | nil => simp [fits] at fit
      | cons c rest =>
          rw [fits, Bool.and_eq_true] at fit
          obtain ⟨ascii, accepted⟩ := place.accepts_toLower fit.1
          obtain ⟨allAscii, later⟩ := ih fit.2
          rw [List.map_cons, fits, accepted, later]
          exact ⟨List.forall_mem_cons.mpr ⟨ascii, allAscii⟩, rfl⟩

section Canonical

variable {text : String} (canonical : isUuid text = true)

include canonical

/-- A canonical identifier is lower-cased character by character. -/
theorem toList_lowercase : (lowercase text).toList = text.toList.map Char.toLower := by
  rw [lowercase, String.toList_ofList, lower, lowerAfter_of_ascii (fits_map_toLower canonical).1]

/-- The lower case of a canonical identifier is one. -/
theorem isUuid_lowercase : isUuid (lowercase text) = true := by
  rw [isUuid, toList_lowercase canonical]
  exact (fits_map_toLower canonical).2

/-- Lower-casing a canonical identifier again changes nothing. -/
theorem lowercase_lowercase : lowercase (lowercase text) = lowercase text := by
  apply String.toList_injective
  rw [toList_lowercase (isUuid_lowercase canonical), toList_lowercase canonical, List.map_map]
  exact List.map_congr_left fun c member =>
    forall_ascii (P := fun c => c.toLower.toLower = c.toLower) (by decide +kernel)
      ((fits_map_toLower canonical).1 c member)

/-- The octets of a canonical identifier are sixteen, and they are written as its lower case. -/
theorem textOfOctets_of_isUuid {octets : List UInt8} (found : octets? text = some octets) :
    octets.length = 16 ∧ textOfOctets octets = lowercase text := by
  have lowered := toList_lowercase canonical
  obtain ⟨a, b, c, d, e, whole, lengthA, lengthB, lengthC, lengthD, lengthE, -⟩ :=
    groups_of_isUuid canonical
  rw [octets?_of_isUuid canonical, whole,
    hyphenatedOctets?_groups lengthA lengthB lengthC lengthD lengthE] at found
  have digits := flatMap_hexOctet_of_octetsOfHex? found
  constructor
  · have total := congrArg List.length digits
    simp only [length_flatMap_hexOctet, List.length_map, List.length_append] at total
    omega
  · apply String.toList_injective
    simp only [List.map_append] at digits
    rw [lowered, whole, textOfOctets_groups digits] <;> simp [*]

end Canonical

end RowFilter.Uuid
