import Mathlib.Data.List.TakeDrop
import RowFilter.Proofs.Text.Utf8
import RowFilter.Url.Encoding
import RowFilter.Url.FormData

/-!
# Texts as form data

A text is written as the value of a pair by writing a plus for each space, and a percent sign with
two digits for every octet that is not of a letter, a digit or one of four other characters. What is
written holds no separator of form data or of URLs, and is read back as the text.
-/

namespace RowFilter.Text

/-- What comes before a mark is split off at it. -/
theorem span_append_cons {α : Type} {p : α → Bool} {before after : List α} {mark : α}
    (each : ∀ a ∈ before, p a = true) (stops : p mark = false) :
    (before ++ mark :: after).span p = (before, mark :: after) := by
  rw [List.span_eq_takeWhile_dropWhile, List.takeWhile_append_of_pos each,
    List.dropWhile_append_of_pos each]
  simp [stops]

end RowFilter.Text

namespace RowFilter.Url

open Text

/-! ### Writing -/

/-- Whether an octet is written as its own character in form data. -/
def isPlainOctet (octet : UInt8) : Bool :=
  (Char.ofNat octet.toNat).isAlphanum || "*-._".toList.contains (Char.ofNat octet.toNat)

/-- An octet as it is written in form data. -/
def formOctet (octet : UInt8) : List Char :=
  if octet = 0x20 then ['+']
  else if isPlainOctet octet then [Char.ofNat octet.toNat]
  else percentOctet octet

/-- A text as it is written in form data. -/
def formEncoded (text : String) : String := String.ofList ((encode text).flatMap formOctet)

/-- What is checked of the octets one by one holds of every octet. -/
theorem forall_octet {P : UInt8 → Prop} (each : ∀ n < 0x100, P (UInt8.ofNat n)) (octet : UInt8) :
    P octet := by
  have given := each octet.toNat octet.toNat_lt
  rwa [UInt8.ofNat_toNat] at given

/-- No octet is written with the mark of a fragment, or with one that separates pairs. -/
theorem not_mem_formOctet (octet : UInt8) :
    '#' ∉ formOctet octet ∧ 0x26 ∉ (formOctet octet).flatMap encodeChar :=
  forall_octet (P := fun octet => '#' ∉ formOctet octet ∧
    0x26 ∉ (formOctet octet).flatMap encodeChar) (by decide +kernel) octet

/-- What a text is written as has no fragment. -/
theorem hash_not_mem_formEncoded (text : String) : '#' ∉ (formEncoded text).toList := by
  rw [formEncoded, String.toList_ofList]
  intro mark
  obtain ⟨octet, _, inOctet⟩ := List.mem_flatMap.mp mark
  exact (not_mem_formOctet octet).1 inOctet

/-! ### Reading -/

namespace FormData

theorem percentDecode_of_ne {octet : UInt8} (plain : octet ≠ 0x25) (rest : List UInt8) :
    percentDecode (octet :: rest) = octet :: percentDecode rest := by
  match rest with
  | [] => rfl
  | [_] => rfl
  | high :: low :: rest => simp [percentDecode, plain]

theorem percentDecode_of_digits {octet high low : UInt8}
    (first : hexOctetValue? high = some (octet.toNat / 16))
    (second : hexOctetValue? low = some (octet.toNat % 16)) (rest : List UInt8) :
    percentDecode (0x25 :: high :: low :: rest) = octet :: percentDecode rest := by
  simp only [percentDecode, beq_self_eq_true, first, second]
  rw [Nat.div_add_mod, UInt8.ofNat_toNat]

/-- The octets of a digit in upper case. -/
theorem octets_of_digit {n : Nat} (small : n < 16) :
    ∃ octet, encodeChar (hexDigit n).toUpper = [octet] ∧ octet ≠ 0x2B ∧
      hexOctetValue? octet = some n := by
  have digits : ∀ n < 16, encodeChar (hexDigit n).toUpper =
      [UInt8.ofNat (hexDigit n).toUpper.toNat] ∧
        UInt8.ofNat (hexDigit n).toUpper.toNat ≠ 0x2B ∧
          hexOctetValue? (UInt8.ofNat (hexDigit n).toUpper.toNat) = some n := by decide +kernel
  exact ⟨_, digits n small⟩

/-- A plain octet is the octet of its character, and marks nothing. -/
theorem of_isPlainOctet (octet : UInt8) : isPlainOctet octet = true →
    encodeChar (Char.ofNat octet.toNat) = [octet] ∧ octet ≠ 0x2B ∧ octet ≠ 0x25 :=
  forall_octet (P := fun octet => isPlainOctet octet = true →
    encodeChar (Char.ofNat octet.toNat) = [octet] ∧ octet ≠ 0x2B ∧ octet ≠ 0x25)
      (by decide +kernel) octet

/-- The octets of an octet written with a percent sign, none of which marks a space. -/
theorem octets_of_percentOctet (octet : UInt8) :
    ∃ high low, (percentOctet octet).flatMap encodeChar = [0x25, high, low] ∧ high ≠ 0x2B ∧
      low ≠ 0x2B ∧ ∀ rest, percentDecode (0x25 :: high :: low :: rest) =
        octet :: percentDecode rest := by
  have below : octet.toNat < 0x100 := octet.toNat_lt
  obtain ⟨high, encodedHigh, noPlusHigh, first⟩ :=
    octets_of_digit (show octet.toNat / 16 < 16 by omega)
  obtain ⟨low, encodedLow, noPlusLow, second⟩ :=
    octets_of_digit (show octet.toNat % 16 < 16 by omega)
  refine ⟨high, low, ?_, noPlusHigh, noPlusLow, percentDecode_of_digits first second⟩
  simp only [percentOctet, hexOctet, List.map_cons, List.map_nil, List.flatMap_cons,
    List.flatMap_nil, encodedHigh, encodedLow]
  rfl

/-- An octet that was written is read back. -/
theorem percentDecode_formOctet (octet : UInt8) (rest : List UInt8) :
    percentDecode (plusToSpace ((formOctet octet).flatMap encodeChar ++ rest)) =
      octet :: percentDecode (plusToSpace rest) := by
  unfold formOctet
  split_ifs with space plain
  · rw [space]
    exact percentDecode_of_ne (by decide) _
  · obtain ⟨encoded, noPlus, noPercent⟩ := of_isPlainOctet octet plain
    rw [List.flatMap_singleton, encoded, List.singleton_append, plusToSpace, List.map_cons,
      if_neg noPlus, percentDecode_of_ne noPercent, plusToSpace]
  · obtain ⟨high, low, written, noPlusHigh, noPlusLow, readBack⟩ := octets_of_percentOctet octet
    have kept : plusToSpace ([0x25, high, low] ++ rest) =
        0x25 :: high :: low :: plusToSpace rest := by
      simp [plusToSpace, noPlusHigh, noPlusLow]
    rw [written, kept, readBack]

/-- A text that was written as a value is read back. -/
theorem decodePart_encode_formEncoded (text : String) :
    decodePart (encode (formEncoded text)) = text := by
  have octets : ∀ octets : List UInt8,
      percentDecode (plusToSpace ((octets.flatMap formOctet).flatMap encodeChar)) = octets := by
    intro octets
    induction octets with
    | nil => rfl
    | cons octet rest ih =>
        rw [List.flatMap_cons, List.flatMap_append, percentDecode_formOctet, ih]
  rw [decodePart, encode, formEncoded, String.toList_ofList, octets, textWithReplacements_encode]

example : formEncoded "50% & é" = "50%25+%26+%C3%A9" := by decide +kernel

/-! ### Pairs -/

/-- What holds no separator is one piece. -/
theorem pieces_of_not_mem {separator : UInt8} {octets : List UInt8}
    (absent : separator ∉ octets) : pieces separator octets = [octets] := by
  induction octets with
  | nil => rfl
  | cons octet rest ih =>
      rw [List.mem_cons, not_or] at absent
      rw [pieces, if_neg (Ne.symm absent.1), ih absent.2]

/-- The name and the value of a pair stand around the first equals sign. -/
theorem decodePair_append {name value : List UInt8} (absent : 0x3D ∉ name) :
    decodePair (name ++ 0x3D :: value) = (decodePart name, decodePart value) := by
  have before : ∀ octet ∈ name, (octet != 0x3D) = true := fun octet hoctet =>
    bne_iff_ne.mpr fun same => absent (same ▸ hoctet)
  rw [decodePair, span_append_cons before rfl]
  rfl

/-- What a text is written as is not cut into pieces. -/
theorem not_mem_encode_formEncoded (text : String) : 0x26 ∉ encode (formEncoded text) := by
  rw [encode, formEncoded, String.toList_ofList, List.flatMap_assoc]
  intro hmem
  obtain ⟨octet, _, hoctet⟩ := List.mem_flatMap.mp hmem
  exact (not_mem_formOctet octet).2 hoctet

/-- A text that was written as the value of a name is the value of the name, and there is no other
pair. -/
theorem pairs_formEncoded (name text : String) (whole : 0x26 ∉ encode name)
    (plain : 0x3D ∉ encode name) :
    pairs (name ++ "=" ++ formEncoded text) = [(decodePart (encode name), text)] := by
  have octets : encode (name ++ "=" ++ formEncoded text) =
      encode name ++ 0x3D :: encode (formEncoded text) := by
    have mark : encode "=" = [0x3D] := by decide +kernel
    rw [encode_append, encode_append, mark, List.append_assoc, List.singleton_append]
  have absent : 0x26 ∉ encode name ++ 0x3D :: encode (formEncoded text) := by
    rw [List.mem_append, List.mem_cons]
    rintro (inName | mark | inValue)
    · exact whole inName
    · cases mark
    · exact not_mem_encode_formEncoded text inValue
  have full : (encode name ++ 0x3D :: encode (formEncoded text)).isEmpty = false := by simp
  rw [pairs, octets, pieces_of_not_mem absent, List.filter_cons, full, List.filter_nil]
  exact congrArg (fun pair => [pair]) ((decodePair_append plain).trans
    (congrArg (Prod.mk _) (decodePart_encode_formEncoded text)))

end FormData

end RowFilter.Url
