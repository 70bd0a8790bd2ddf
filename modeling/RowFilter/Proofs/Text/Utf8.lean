import Mathlib.Data.List.Basic
import RowFilter.Text.Utf8

/-!
# Texts as octets and back

The octets that encode a text decode to the characters of the text, and nothing in them is
malformed.
-/

namespace RowFilter.Text

/-- What is checked of the characters of ASCII one by one holds of each of them. -/
theorem forall_ascii {P : Char → Prop} (each : ∀ n < 0x80, P (Char.ofNat n)) {c : Char}
    (ascii : c.toNat < 0x80) : P c := by
  have given := each c.toNat ascii
  rwa [Char.ofNat_toNat] at given

/-! ### Decoding one character -/

section DecodeFirst

variable {lead b c d : UInt8} {rest : List UInt8}

theorem decodeFirst_one (small : lead.toNat < 0x80) :
    decodeFirst lead rest = (.char (Char.ofNat lead.toNat), rest) := by
  have below : lead < 0x80 := UInt8.lt_iff_toNat_lt.mpr small
  simp [decodeFirst, below]

/-- What starts a longer encoding is not refused. -/
theorem decodeFirst_of_lead (low : 0xC2 ≤ lead.toNat) (high : lead.toNat ≤ 0xF4) :
    ¬ lead < 0x80 ∧ (lead < 0xC2 || 0xF4 < lead) = false := by
  simp only [Bool.or_eq_false_iff, decide_eq_false_iff_not, UInt8.lt_iff_toNat_lt,
    UInt8.reduceToNat]
  omega

theorem decodeFirst_two (low : 0xC2 ≤ lead.toNat) (high : lead.toNat < 0xE0)
    (follows : followsLead lead b = true) :
    decodeFirst lead (b :: rest) =
      (.char (Char.ofNat (0x40 * (lead.toNat - 0xC0) + b.toNat % 0x40)), rest) := by
  obtain ⟨long, proper⟩ := decodeFirst_of_lead low (by omega)
  have short : lead < 0xE0 := UInt8.lt_iff_toNat_lt.mpr high
  simp [decodeFirst, long, proper, follows, short]

theorem decodeFirst_three (low : 0xE0 ≤ lead.toNat) (high : lead.toNat < 0xF0)
    (follows : followsLead lead b = true) (third : isTail c = true) :
    decodeFirst lead (b :: c :: rest) =
      (.char (Char.ofNat
        (0x1000 * (lead.toNat - 0xE0) + 0x40 * (b.toNat % 0x40) + c.toNat % 0x40)), rest) := by
  obtain ⟨long, proper⟩ := decodeFirst_of_lead (show 0xC2 ≤ lead.toNat by omega) (by omega)
  have notTwo : ¬ lead < 0xE0 := fun less => Nat.not_lt_of_le low (UInt8.lt_iff_toNat_lt.mp less)
  have short : lead < 0xF0 := UInt8.lt_iff_toNat_lt.mpr high
  simp [decodeFirst, long, proper, follows, third, notTwo, short]

theorem decodeFirst_four (low : 0xF0 ≤ lead.toNat) (high : lead.toNat ≤ 0xF4)
    (follows : followsLead lead b = true) (third : isTail c = true) (fourth : isTail d = true) :
    decodeFirst lead (b :: c :: d :: rest) =
      (.char (Char.ofNat (0x40000 * (lead.toNat - 0xF0) + 0x1000 * (b.toNat % 0x40) +
        0x40 * (c.toNat % 0x40) + d.toNat % 0x40)), rest) := by
  obtain ⟨long, proper⟩ := decodeFirst_of_lead (show 0xC2 ≤ lead.toNat by omega) high
  have notTwo : ¬ lead < 0xE0 := fun less =>
    absurd (UInt8.lt_iff_toNat_lt.mp less) (Nat.not_lt_of_le (Nat.le_trans (by decide) low))
  have notThree : ¬ lead < 0xF0 := fun less => Nat.not_lt_of_le low (UInt8.lt_iff_toNat_lt.mp less)
  simp [decodeFirst, long, proper, follows, third, fourth, notTwo, notThree]

end DecodeFirst

/-! ### Encoding -/

theorem toNat_ofNat_of_lt {n : Nat} (small : n < 0x100) : (UInt8.ofNat n).toNat = n := by
  rw [UInt8.toNat_ofNat']
  exact Nat.mod_eq_of_lt small

theorem isTail_ofNat (n : Nat) : isTail (UInt8.ofNat (0x80 + n % 0x40)) = true := by
  rw [isTail, toNat_ofNat_of_lt (by omega), Bool.and_eq_true, decide_eq_true_iff,
    decide_eq_true_iff]
  omega

/-- An octet may come second if it is a tail octet, within the narrower bounds after some lead
octets. -/
theorem followsLead_of_bounds {lead b : UInt8} (tail : isTail b = true)
    (e0 : lead.toNat = 0xE0 → 0xA0 ≤ b.toNat) (ed : lead.toNat = 0xED → b.toNat ≤ 0x9F)
    (f0 : lead.toNat = 0xF0 → 0x90 ≤ b.toNat) (f4 : lead.toNat = 0xF4 → b.toNat ≤ 0x8F) :
    followsLead lead b = true := by
  simp only [isTail, Bool.and_eq_true, decide_eq_true_iff] at tail
  simp only [followsLead, secondBounds, ← UInt8.toNat_inj, UInt8.reduceToNat]
  split_ifs <;> simp <;> omega

/-- The octets of a character are read as the character, whatever follows them. -/
theorem decodeFirst_encodeChar (c : Char) (rest : List UInt8) :
    ∃ lead tail, encodeChar c = lead :: tail ∧
      decodeFirst lead (tail ++ rest) = (.char c, rest) := by
  have ranges : c.toNat < 0xD800 ∨ 0xDFFF < c.toNat ∧ c.toNat < 0x110000 := c.valid
  have same : Char.ofNat c.toNat = c := Char.ofNat_toNat c
  have third := isTail_ofNat (c.toNat / 0x40)
  have last := isTail_ofNat c.toNat
  have lastOctet := toNat_ofNat_of_lt (show 0x80 + c.toNat % 0x40 < 0x100 by omega)
  have thirdOctet := toNat_ofNat_of_lt (show 0x80 + c.toNat / 0x40 % 0x40 < 0x100 by omega)
  have secondOctet := toNat_ofNat_of_lt (show 0x80 + c.toNat / 0x1000 % 0x40 < 0x100 by omega)
  unfold encodeChar
  dsimp only
  split_ifs with one two three
  · have lead := toNat_ofNat_of_lt (show c.toNat < 0x100 by omega)
    refine ⟨_, _, rfl, ?_⟩
    rw [List.nil_append, decodeFirst_one (by omega), lead, same]
  · have lead := toNat_ofNat_of_lt (show 0xC0 + c.toNat / 0x40 < 0x100 by omega)
    refine ⟨_, _, rfl, ?_⟩
    rw [List.singleton_append, decodeFirst_two (by omega) (by omega)
      (followsLead_of_bounds last (by omega) (by omega) (by omega) (by omega)), lead, lastOctet]
    have whole : 0x40 * (0xC0 + c.toNat / 0x40 - 0xC0) + (0x80 + c.toNat % 0x40) % 0x40 =
        c.toNat := by omega
    rw [whole, same]
  · have lead := toNat_ofNat_of_lt (show 0xE0 + c.toNat / 0x1000 < 0x100 by omega)
    refine ⟨_, _, rfl, ?_⟩
    rw [List.cons_append, List.singleton_append, decodeFirst_three (by omega) (by omega)
      (followsLead_of_bounds third (by omega) (by omega) (by omega) (by omega)) last, lead,
      thirdOctet, lastOctet]
    have whole : 0x1000 * (0xE0 + c.toNat / 0x1000 - 0xE0) +
        0x40 * ((0x80 + c.toNat / 0x40 % 0x40) % 0x40) + (0x80 + c.toNat % 0x40) % 0x40 =
          c.toNat := by omega
    rw [whole, same]
  · have lead := toNat_ofNat_of_lt (show 0xF0 + c.toNat / 0x40000 < 0x100 by omega)
    have second := isTail_ofNat (c.toNat / 0x1000)
    refine ⟨_, _, rfl, ?_⟩
    rw [List.cons_append, List.cons_append, List.singleton_append,
      decodeFirst_four (by omega) (by omega)
        (followsLead_of_bounds second (by omega) (by omega) (by omega) (by omega)) third last,
      lead, secondOctet, thirdOctet, lastOctet]
    have whole : 0x40000 * (0xF0 + c.toNat / 0x40000 - 0xF0) +
        0x1000 * ((0x80 + c.toNat / 0x1000 % 0x40) % 0x40) +
          0x40 * ((0x80 + c.toNat / 0x40 % 0x40) % 0x40) + (0x80 + c.toNat % 0x40) % 0x40 =
            c.toNat := by omega
    rw [whole, same]

/-! ### Whole texts -/

theorem encode_append (first second : String) :
    encode (first ++ second) = encode first ++ encode second := by
  rw [encode, String.toList_append, List.flatMap_append, encode, encode]

theorem length_le_length_flatMap_encodeChar (chars : List Char) :
    chars.length ≤ (chars.flatMap encodeChar).length := by
  induction chars with
  | nil => exact Nat.zero_le _
  | cons c rest ih =>
      obtain ⟨lead, tail, octets, _⟩ := decodeFirst_encodeChar c []
      rw [List.flatMap_cons, List.length_append, octets, List.length_cons, List.length_cons]
      omega

/-- The octets of characters decode to the characters, one symbol for each. -/
theorem decodeUpTo_flatMap_encodeChar {bound : Nat} (chars : List Char)
    (enough : chars.length ≤ bound) :
    decodeUpTo bound (chars.flatMap encodeChar) = chars.map .char := by
  induction chars generalizing bound with
  | nil => cases bound <;> rfl
  | cons c rest ih =>
      obtain ⟨less, rfl⟩ : ∃ less, bound = less + 1 :=
        Nat.exists_eq_add_one.mpr (Nat.lt_of_lt_of_le (Nat.succ_pos _) enough)
      obtain ⟨lead, tail, octets, first⟩ := decodeFirst_encodeChar c (rest.flatMap encodeChar)
      rw [List.flatMap_cons, octets, List.cons_append, decodeUpTo, first, List.map_cons,
        ih (Nat.le_of_succ_le_succ enough)]

/-- Decoding undoes encoding. -/
theorem decode_encode (text : String) : decode (encode text) = symbols text :=
  decodeUpTo_flatMap_encodeChar text.toList (length_le_length_flatMap_encodeChar text.toList)

theorem wellFormedChars?_map_char (chars : List Char) :
    wellFormedChars? (chars.map .char) = some chars := by
  induction chars with
  | nil => rfl
  | cons c chars ih => rw [List.map_cons, wellFormedChars?, ih]; rfl

/-- The octets of a text are read as the text. -/
theorem text?_encode (text : String) : text? (encode text) = some text := by
  rw [text?, decode_encode, symbols, wellFormedChars?_map_char, Option.map_some,
    String.ofList_toList]

/-- In the octets of a text nothing is replaced. -/
theorem textWithReplacements_encode (text : String) :
    textWithReplacements (encode text) = text := by
  rw [textWithReplacements, decode_encode, symbols, List.map_map]
  have kept := List.map_id text.toList
  exact (congrArg String.ofList kept).trans (String.ofList_toList)

end RowFilter.Text
