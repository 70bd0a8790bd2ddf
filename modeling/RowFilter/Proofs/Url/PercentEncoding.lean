import RowFilter.Proofs.Url.FormEncoding
import RowFilter.Url.Path
import RowFilter.Url.Reader

/-!
# Percent-encoded texts

A text that is to stand in a part of a URL is written with the octets of some of its characters as
percent signs and digits: of those that have a meaning of their own there, of the percent sign, and
perhaps of others. What is written may stand in every part of an authority and a path as it is, and
decoding it gives the text back. It is the text itself only if nothing had to be encoded.
-/

namespace RowFilter.Url

open Text

/-- Whether a way of encoding covers every character that must not stand bare in a user name or a
password, and the percent sign, which would be taken for an encoded octet. -/
structure CoversReserved (outside : Char → Bool) : Prop where
  /-- What must not stand bare is encoded. -/
  reserved : ∀ c, isOutsideUserinfo c = true → outside c = true
  /-- The percent sign is encoded. -/
  percent : outside '%' = true

/-- A text as it is written where characters are encoded. -/
def percentEncoded (outside : Char → Bool) (text : String) : String :=
  String.ofList (encodeIf outside text.toList)

/-- The text that a part of a URL stands for. -/
def percentDecoded (text : String) : String :=
  textWithReplacements (FormData.percentDecode (encode text))

/-! ### Unreserved characters -/

/-- Whether a character has no meaning of its own in any part of a URL. -/
def isUnreserved (c : Char) : Bool := c.isAlphanum || "-._~".toList.contains c

theorem toNat_lt_of_isUnreserved {c : Char} (unreserved : isUnreserved c = true) :
    c.toNat < 0x80 := by
  rw [isUnreserved, Bool.or_eq_true] at unreserved
  rcases unreserved with letter | mark
  · change (decide (65 ≤ c.val ∧ c.val ≤ 90) || (decide (97 ≤ c.val) && decide (c.val ≤ 122)) ||
      (decide (48 ≤ c.val) && decide (c.val ≤ 57))) = true at letter
    simp only [Bool.or_eq_true, Bool.and_eq_true, decide_eq_true_eq] at letter
    rcases letter with (⟨_, last⟩ | ⟨_, last⟩) | ⟨_, last⟩ <;>
      exact Nat.lt_of_le_of_lt (UInt32.le_iff_toNat_le.mp last) (by decide)
  · have marks : ("-._~".toList.all fun c => c.toNat < 0x80) = true := by decide
    exact of_decide_eq_true (List.all_eq_true.mp marks c (List.contains_iff_mem.mp mark))

theorem isOutsideUserinfo_of_isUnreserved {c : Char} (unreserved : isUnreserved c = true) :
    isOutsideUserinfo c = false :=
  forall_ascii (P := fun c => isUnreserved c = true → isOutsideUserinfo c = false)
    (by decide +kernel) (toNat_lt_of_isUnreserved unreserved) unreserved

/-- Encoding all but the unreserved characters covers what is reserved. -/
theorem coversReserved_isUnreserved : CoversReserved fun c => !isUnreserved c where
  reserved c reserved := by
    rw [Bool.not_eq_true', Bool.eq_false_iff]
    intro unreserved
    rw [isOutsideUserinfo_of_isUnreserved unreserved] at reserved
    cases reserved
  percent := by decide

/-! ### What is written -/

theorem isOutsideUserinfo_digit {n : Nat} (small : n < 16) :
    isOutsideUserinfo (hexDigit n).toUpper = false := by
  have digits : ∀ n < 16, isOutsideUserinfo (hexDigit n).toUpper = false := by decide +kernel
  exact digits n small

/-- An octet is written in three characters, each of which may stand bare. -/
theorem percentOctet_bare (octet : UInt8) :
    (percentOctet octet).length = 3 ∧ ∀ c ∈ percentOctet octet, isOutsideUserinfo c = false := by
  have high : octet.toNat / 16 < 16 := by
    have bound := octet.toNat_lt
    omega
  have low : octet.toNat % 16 < 16 := Nat.mod_lt _ (by decide)
  refine ⟨rfl, ?_⟩
  simp only [percentOctet, hexOctet, List.map_cons, List.map_nil, List.forall_mem_cons]
  exact ⟨by decide, isOutsideUserinfo_digit high, isOutsideUserinfo_digit low,
    List.forall_mem_nil _⟩

/-- A character is written in one character or more, and in one only if it is not encoded. -/
theorem length_encodeCharIf (outside : Char → Bool) (c : Char) :
    1 ≤ (encodeCharIf outside c).length ∧
      ((encodeCharIf outside c).length = 1 → outside c = false) := by
  unfold encodeCharIf
  split_ifs with reserved
  · obtain ⟨octet, rest, octets, _⟩ := decodeFirst_encodeChar c []
    rw [octets, List.flatMap_cons, List.length_append, (percentOctet_bare octet).1]
    exact ⟨by omega, fun single => by omega⟩
  · exact ⟨Nat.le_refl 1, fun _ => Bool.eq_false_iff.mpr reserved⟩

section

variable {outside : Char → Bool}

theorem encodeIf_eq_self {text : List Char} (plain : ∀ c ∈ text, outside c = false) :
    encodeIf outside text = text := by
  have each : ∀ c ∈ text, encodeCharIf outside c = [c] := by
    intro c hc
    rw [encodeCharIf, plain c hc, if_neg Bool.false_ne_true]
  calc
    encodeIf outside text = text.flatMap fun c => [c] := List.flatMap_congr each
    _ = text := List.flatMap_singleton' text

theorem length_encodeIf (outside : Char → Bool) (text : List Char) :
    text.length ≤ (encodeIf outside text).length ∧
      ((encodeIf outside text).length = text.length → ∀ c ∈ text, outside c = false) := by
  induction text with
  | nil => simp [encodeIf]
  | cons c rest ih =>
      obtain ⟨least, single⟩ := length_encodeCharIf outside c
      have split : encodeIf outside (c :: rest) = encodeCharIf outside c ++ encodeIf outside rest :=
        List.flatMap_cons
      rw [split, List.length_append, List.length_cons, List.forall_mem_cons]
      refine ⟨by omega, fun same => ⟨single (by omega), ih.2 (by omega)⟩⟩

/-- A text is written as it is exactly if none of its characters is to be encoded. -/
theorem percentEncoded_eq_self_iff (text : String) :
    percentEncoded outside text = text ↔ ∀ c ∈ text.toList, outside c = false := by
  constructor
  · intro same
    have chars : encodeIf outside text.toList = text.toList := by
      rw [← String.toList_ofList (l := encodeIf outside text.toList)]
      exact congrArg String.toList same
    exact (length_encodeIf outside text.toList).2 (congrArg List.length chars)
  · intro plain
    rw [percentEncoded, encodeIf_eq_self plain, String.ofList_toList]

theorem percentEncoded_ne_empty {text : String} (full : text ≠ "") :
    percentEncoded outside text ≠ "" := by
  intro empty
  have chars : encodeIf outside text.toList = [] := by
    rw [← String.toList_ofList (l := encodeIf outside text.toList)]
    exact congrArg String.toList empty
  have least := (length_encodeIf outside text.toList).1
  rw [chars, List.length_nil, Nat.le_zero, List.length_eq_zero_iff] at least
  exact full (String.toList_inj.mp least)

/-- What is written is of the characters of encoded octets and of those that were not encoded. -/
theorem mem_encodeIf {text : List Char} {c : Char} (member : c ∈ encodeIf outside text) :
    isOutsideUserinfo c = false ∨ c ∈ text ∧ outside c = false := by
  obtain ⟨source, inside, written⟩ := List.mem_flatMap.mp member
  unfold encodeCharIf at written
  split_ifs at written with reserved
  · obtain ⟨octet, _, digit⟩ := List.mem_flatMap.mp written
    exact .inl ((percentOctet_bare octet).2 c digit)
  · obtain rfl := List.mem_singleton.mp written
    exact .inr ⟨inside, Bool.eq_false_iff.mpr reserved⟩

/-- What is written may stand bare in a user name, a password or a segment of a path. -/
theorem isOutsideUserinfo_of_mem_percentEncoded (covers : CoversReserved outside) {text : String}
    {c : Char} (member : c ∈ (percentEncoded outside text).toList) :
    isOutsideUserinfo c = false := by
  rw [percentEncoded, String.toList_ofList] at member
  rcases mem_encodeIf member with bare | ⟨_, kept⟩
  · exact bare
  · rw [Bool.eq_false_iff]
    intro reserved
    rw [covers.reserved c reserved] at kept
    cases kept

end

/-! ### Reading back -/

theorem isControl_of_isOutsideUserinfo {c : Char} (bare : isOutsideUserinfo c = false) :
    isControl c = false := by
  rw [isOutsideUserinfo, Bool.or_eq_false_iff, isOutsidePath, Bool.or_eq_false_iff] at bare
  exact bare.1.1

open FormData in
theorem percentDecode_encodeIf {outside : Char → Bool} (covers : CoversReserved outside)
    (text : List Char) :
    percentDecode ((encodeIf outside text).flatMap encodeChar) = text.flatMap encodeChar := by
  induction text with
  | nil => rfl
  | cons c rest ih =>
      have octets : ∀ octets : List UInt8, percentDecode
          ((octets.flatMap percentOctet).flatMap encodeChar ++
            (encodeIf outside rest).flatMap encodeChar) = octets ++ rest.flatMap encodeChar := by
        intro octets
        induction octets with
        | nil => exact ih
        | cons octet others later =>
            obtain ⟨high, low, written, _, _, readBack⟩ := octets_of_percentOctet octet
            rw [List.flatMap_cons, List.flatMap_append, written, List.append_assoc,
              List.cons_append, List.cons_append, List.cons_append, List.nil_append, readBack,
              later, List.cons_append]
      have split : encodeIf outside (c :: rest) = encodeCharIf outside c ++ encodeIf outside rest :=
        List.flatMap_cons
      rw [split, List.flatMap_append, List.flatMap_cons]
      unfold encodeCharIf
      split_ifs with reserved
      · exact octets (encodeChar c)
      · -- A bare character is one of ASCII, and not the percent sign.
        have bare : isOutsideUserinfo c = false :=
          Bool.eq_false_iff.mpr fun outsideUserinfo => reserved (covers.reserved c outsideUserinfo)
        have bounds := isControl_of_isOutsideUserinfo bare
        rw [isControl, Bool.or_eq_false_iff, decide_eq_false_iff_not, decide_eq_false_iff_not]
          at bounds
        have single : encodeChar c = [UInt8.ofNat c.toNat] := by
          rw [encodeChar]
          exact if_pos (by omega)
        have noPercent : UInt8.ofNat c.toNat ≠ 0x25 := by
          intro same
          have code : c.toNat = 0x25 := by
            have octet := congrArg UInt8.toNat same
            rwa [toNat_ofNat_of_lt (by omega)] at octet
          have percent : c = '%' := Char.toNat_inj.mp code
          exact reserved (percent ▸ covers.percent)
        rw [List.flatMap_singleton, single, List.singleton_append, percentDecode_of_ne noPercent,
          ih, List.singleton_append]

/-- Decoding what was written gives the text back. -/
theorem percentDecoded_percentEncoded {outside : Char → Bool} (covers : CoversReserved outside)
    (text : String) : percentDecoded (percentEncoded outside text) = text := by
  rw [percentDecoded, encode, percentEncoded, String.toList_ofList, percentDecode_encodeIf covers]
  exact textWithReplacements_encode text

/-! ### Dots -/

theorem eq_of_flatMap_encodeChar_eq {first second : List Char}
    (same : first.flatMap encodeChar = second.flatMap encodeChar) : first = second := by
  have texts : encode (String.ofList first) = encode (String.ofList second) := by
    rw [encode, encode, String.toList_ofList, String.toList_ofList, same]
  rw [← String.ofList_inj, ← textWithReplacements_encode (String.ofList first), texts,
    textWithReplacements_encode]

open FormData in
theorem percentDecode_of_isDot {segment : List Char} (dot : isDot segment = true)
    (rest : List UInt8) :
    percentDecode (segment.flatMap encodeChar ++ rest) = 0x2E :: percentDecode rest := by
  simp only [isDot, Bool.or_eq_true, decide_eq_true_eq] at dot
  rcases dot with (rfl | rfl) | rfl
  · exact percentDecode_of_ne (by decide) rest
  · rfl
  · rfl

/-- A written text is the segment of one dot exactly if the text is one dot. -/
theorem isSingleDot_encodeIf_iff {outside : Char → Bool} (covers : CoversReserved outside)
    (text : List Char) : isSingleDot (encodeIf outside text) = true ↔ text = ['.'] := by
  constructor
  · intro dot
    apply eq_of_flatMap_encodeChar_eq
    have decoded := percentDecode_of_isDot dot []
    rw [List.append_nil, percentDecode_encodeIf covers] at decoded
    exact decoded
  · rintro rfl
    cases dot : outside '.' <;> simp [encodeIf, encodeCharIf, dot] <;> decide

/-- A written text is the segment of two dots exactly if the text is two dots. -/
theorem isDoubleDot_encodeIf_iff {outside : Char → Bool} (covers : CoversReserved outside)
    (text : List Char) : isDoubleDot (encodeIf outside text) = true ↔ text = ['.', '.'] := by
  constructor
  · intro dots
    apply eq_of_flatMap_encodeChar_eq
    have halves : ∃ n, isDot ((encodeIf outside text).take n) = true ∧
        isDot ((encodeIf outside text).drop n) = true := by
      rw [isDoubleDot, Bool.or_eq_true, Bool.and_eq_true, Bool.and_eq_true] at dots
      rcases dots with bare | written
      · exact ⟨1, bare⟩
      · exact ⟨3, written⟩
    obtain ⟨n, first, second⟩ := halves
    have decoded := percentDecode_encodeIf covers text
    rw [← List.take_append_drop n (encodeIf outside text), List.flatMap_append,
      percentDecode_of_isDot first, ← List.append_nil (List.flatMap _ (List.drop _ _)),
      percentDecode_of_isDot second] at decoded
    exact decoded.symm
  · rintro rfl
    cases dot : outside '.' <;> simp [encodeIf, encodeCharIf, dot] <;> decide

end RowFilter.Url
