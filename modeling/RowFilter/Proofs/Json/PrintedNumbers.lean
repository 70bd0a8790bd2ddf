import RowFilter.Proofs.Json.NumberRange
import RowFilter.Proofs.Json.Values

/-!
# Numbers read back

A number that is written is read as itself wherever it stands, if what comes after it does not go on
with it. For doubles this rests on one assumption, that the double is the one its own text is read
as.
-/

namespace RowFilter.Json

open Number Text RowFilter.Filter

/-! ### The characters of numbers -/

/-- Whether a character may stand in a number that is written. -/
def IsNumberChar (c : Char) : Prop :=
  c.isDigit = true ∨ c = '-' ∨ c = '+' ∨ c = '.' ∨ c = 'e'

theorem isNumberChar_of_mem_digitChars {n : Nat} {c : Char} (hc : c ∈ digitChars n) :
    IsNumberChar c :=
  .inl (Nat.isDigit_of_mem_toDigits (b := 10) (n := n) (by decide) (by decide) hc)

/-- The blanks, and the bracket that closes a list: no item of a list starts with one of them. -/
def separators : List Char := [' ', '\t', '\n', '\r', ']']

theorem IsNumberChar.not_mem_separators {c : Char} (number : IsNumberChar c) : c ∉ separators := by
  have noDigits : (separators.all fun mark => !mark.isDigit) = true := rfl
  rcases number with digit | rfl | rfl | rfl | rfl
  · intro hc
    have other := List.all_eq_true.mp noDigits c hc
    rw [digit] at other
    cases other
  all_goals simp [separators]

theorem IsNumberChar.ne_bracket {c : Char} (number : IsNumberChar c) : c ≠ ']' := by
  rintro rfl
  exact number.not_mem_separators (by simp [separators])

theorem IsNumberChar.isBlank {c : Char} (number : IsNumberChar c) : isBlank (.char c) = false := by
  have others := number.not_mem_separators
  simp only [separators, List.mem_cons, List.not_mem_nil, or_false, not_or] at others
  simp [Json.isBlank, others]

/-- A whole number is written with a sign and digits. -/
theorem isNumberChar_of_mem_integerChars {n : Int} {c : Char} (hc : c ∈ integerChars n) :
    IsNumberChar c := by
  rcases List.mem_append.mp hc with sign | digit
  · split at sign
    · exact .inr (List.mem_singleton.mp sign ▸ by simp)
    · cases sign
  · exact isNumberChar_of_mem_digitChars digit

private theorem isNumberChar_of_mem_layPositional {style : Style} {digits : List Char}
    (each : ∀ c ∈ digits, IsNumberChar c) (exponent : Int) {c : Char}
    (hc : c ∈ style.layPositional digits exponent) : IsNumberChar c := by
  have zero : ∀ {count : Nat} {c : Char}, c ∈ List.replicate count '0' → IsNumberChar c :=
    fun hc => .inl ((List.mem_replicate.mp hc).2 ▸ rfl)
  unfold Style.layPositional at hc
  dsimp only at hc
  split at hc
  · simp only [List.mem_append] at hc
    rcases hc with (digit | padding) | point
    · exact each c digit
    · exact zero padding
    · split at point
      · simp only [List.mem_cons, List.not_mem_nil, or_false] at point
        rcases point with rfl | rfl
        · exact .inr (by simp)
        · exact .inl rfl
      · cases point
  · split at hc
    · rcases List.mem_append.mp hc with whole | more
      · exact each c (List.mem_of_mem_take whole)
      · rcases List.mem_cons.mp more with rfl | fraction
        · exact .inr (by simp)
        · exact each c (List.mem_of_mem_drop fraction)
    · rcases List.mem_append.mp hc with start | digit
      · simp only [List.mem_cons] at start
        rcases start with rfl | rfl | padding
        · exact .inl rfl
        · exact .inr (by simp)
        · exact zero padding
      · exact each c digit

private theorem isNumberChar_of_mem_layScientific {digits : List Char}
    (each : ∀ c ∈ digits, IsNumberChar c) (leading : Int) {c : Char}
    (hc : c ∈ layScientific digits leading) : IsNumberChar c := by
  unfold layScientific at hc
  simp only [List.mem_append, List.mem_cons] at hc
  rcases hc with (first | fraction) | rfl | sign | exponent
  · exact each c (List.mem_of_mem_take first)
  · split at fraction
    · cases fraction
    · rcases List.mem_cons.mp fraction with rfl | digit
      · exact .inr (by simp)
      · exact each c (List.mem_of_mem_drop digit)
  · exact .inr (by simp)
  · split at sign <;> exact .inr (sign ▸ by simp)
  · exact isNumberChar_of_mem_digitChars exponent

/-- A finite double is written with signs, digits, a point and the letter of an exponent. -/
theorem isNumberChar_of_mem_writeFinite {style : Style} {x : Double} {c : Char}
    (hc : c ∈ style.writeFinite x) : IsNumberChar c := by
  unfold Style.writeFinite at hc
  rcases List.mem_append.mp hc with sign | hc
  · split at sign
    · exact .inr (List.mem_singleton.mp sign ▸ by simp)
    · cases sign
  · split at hc
    · rcases List.mem_cons.mp hc with rfl | point
      · exact .inl rfl
      · split at point
        · simp only [List.mem_cons, List.not_mem_nil, or_false] at point
          rcases point with rfl | rfl
          · exact .inr (by simp)
          · exact .inl rfl
        · cases point
    · dsimp only at hc
      have digits : ∀ c ∈ digitChars (shortest style.tie x.magnitudeBits).digits, IsNumberChar c :=
        fun _ => isNumberChar_of_mem_digitChars
      split at hc
      · exact isNumberChar_of_mem_layPositional digits _ hc
      · split at hc
        · exact isNumberChar_of_mem_layPositional digits _ hc
        · exact isNumberChar_of_mem_layScientific digits _ hc

/-- A number in range is written with the characters of numbers only. -/
theorem isNumberChar_of_mem_numeralChars {n : Numeral} (range : n.InRange) {c : Char}
    (hc : c ∈ numeralChars n) : IsNumberChar c := by
  cases n with
  | integer n => exact isNumberChar_of_mem_integerChars hc
  | double x =>
      have finite : x.isFinite = true := range
      rw [numeralChars, if_pos finite] at hc
      exact isNumberChar_of_mem_writeFinite hc

/-! ### Values that are numbers -/

variable {bound depth : Nat} {text rest after : Source} {n : Numeral}

theorem eq_nil_of_skipBlanks (blank : skipBlanks text = [])
    (solid : ∀ symbol ∈ text, isBlank symbol = false) : text = [] := by
  cases text with
  | nil => rfl
  | cons symbol text =>
      rw [skipBlanks_cons (solid symbol List.mem_cons_self)] at blank
      cases blank

/-- A value is the number that was read, as its number. -/
theorem bind_number_eq_ok_iff {read : Attempt (Numeral × Source)} :
    (read.bind fun found => .ok (Json.number found.1, found.2)) = .ok (.number n, rest) ↔
      read = .ok (n, rest) := by
  cases read with
  | error stop => simp [Except.bind]
  | ok found => simp [Except.bind, Prod.ext_iff]

theorem value_minus (bound depth : Nat) (text : Source) :
    value (bound + 1) depth (.char '-' :: text) =
      (numeral true text).bind fun found => .ok (.number found.1, found.2) := rfl

theorem value_digit {c : Char} (digit : c.isDigit = true) (bound depth : Nat) (text : Source) :
    value (bound + 1) depth (.char c :: text) =
      (numeral false (.char c :: text)).bind fun found => .ok (.number found.1, found.2) := by
  have found : (digit? (.char c)).isSome = true := by
    rw [digit?, digitValue?_of_isDigit digit]
    rfl
  rw [value, skipBlanks_cons (IsNumberChar.isBlank (.inl digit))]
  dsimp only
  split
  case h_8 => rw [if_pos found]; rfl
  -- The other characters that start a value are no digits.
  all_goals cases digit

theorem value_minus_eq_ok_iff :
    value (bound + 1) depth (.char '-' :: text) = .ok (.number n, rest) ↔
      numeral true text = .ok (n, rest) := by
  rw [value_minus, bind_number_eq_ok_iff]

theorem value_digit_eq_ok_iff {c : Char} (digit : c.isDigit = true) :
    value (bound + 1) depth (.char c :: text) = .ok (.number n, rest) ↔
      numeral false (.char c :: text) = .ok (n, rest) := by
  rw [value_digit digit, bind_number_eq_ok_iff]

/-- A number that is read from characters of numbers, up to their end, is read from them wherever
they stand before a text that does not go on with it. -/
theorem value_number_append {chars : List Char} (numbers : ∀ c ∈ chars, IsNumberChar c)
    (read : value (bound + 1) depth (chars.map .char) = .ok (.number n, after))
    (blank : skipBlanks after = []) (stops : StopsNumber rest) (more deep : Nat) :
    value (more + 1) deep (chars.map .char ++ rest) = .ok (.number n, rest) := by
  have solid : ∀ symbol ∈ chars.map Symbol.char, isBlank symbol = false := by
    intro symbol hsymbol
    obtain ⟨c, hc, rfl⟩ := List.mem_map.mp hsymbol
    exact (numbers c hc).isBlank
  have ended : after <:+ chars.map Symbol.char → after = [] := fun suffix =>
    eq_nil_of_skipBlanks blank fun symbol hsymbol => solid symbol (suffix.mem hsymbol)
  cases chars with
  | nil => cases read
  | cons c chars =>
      rw [List.map_cons] at read ended ⊢
      rw [List.cons_append]
      rcases numbers c List.mem_cons_self with digit | rfl | rfl | rfl | rfl
      · rw [value_digit_eq_ok_iff digit] at read ⊢
        obtain ⟨suffix, before⟩ := stops_numeral false read
        obtain rfl := ended suffix
        exact before stops
      · rw [value_minus_eq_ok_iff] at read ⊢
        obtain ⟨suffix, before⟩ := stops_numeral true read
        obtain rfl := ended (suffix.trans (List.suffix_cons _ _))
        exact before stops
      · cases read
      · cases read
      · cases read

/-! ### What numbers are written as -/

/-- Whether a double is what its own text is read as. -/
def ReadsBack (x : Double) : Prop :=
  Json.parse (Json.number (.double x)).text = .ok (.number (.double x))

/-- The double that was read, if it is one. -/
def readDouble? : Except ReadError Json → Option Double
  | .ok (.number (.double x)) => some x
  | _ => none

theorem readDouble?_eq_some_iff {read : Except ReadError Json} {x : Double} :
    readDouble? read = some x ↔ read = .ok (.number (.double x)) := by
  constructor
  · intro found
    unfold readDouble? at found
    split at found
    · rw [Option.some.inj found]
    · cases found
  · rintro rfl
    rfl

instance (x : Double) : Decidable (ReadsBack x) :=
  decidable_of_iff _ readDouble?_eq_some_iff

theorem stopsNumber_nil : StopsNumber [] := fun _ none => nomatch none

/-- A whole number of 64 bits that is written is read as itself. -/
theorem value_integerChars {n : Int} (range : (Numeral.integer n).InRange)
    (stops : StopsNumber rest) :
    value (bound + 1) depth ((integerChars n).map .char ++ rest) =
      .ok (.number (.integer n), rest) := by
  have greatest : greatestSignificand = 18446744073709551615 := by decide
  have half : twoTo 63 = 9223372036854775808 := by decide
  have whole : twoTo 64 = 18446744073709551616 := by decide
  rw [Numeral.InRange, half, whole] at range
  have fits : n.natAbs ≤ greatestSignificand := by
    rw [greatest]
    omega
  rw [integerChars]
  split
  · rename_i negative
    rw [List.singleton_append, List.map_cons, List.cons_append, value_minus_eq_ok_iff,
      numeral_digitChars true fits stops, wholeNumber, if_neg (by decide), if_neg]
    · rw [show -(n.natAbs : Int) = n by omega]
    · simp only [Bool.or_eq_true, decide_eq_true_eq, half]
      omega
  · rename_i positive
    have read := numeral_digitChars false fits stops
    obtain ⟨c, digits, written⟩ : ∃ c digits, digitChars n.natAbs = c :: digits :=
      List.exists_cons_of_ne_nil Nat.toDigits_ne_nil
    have digit : c.isDigit = true := Nat.isDigit_of_mem_toDigits (b := 10) (n := n.natAbs)
      (by decide) (by decide) (show c ∈ digitChars n.natAbs from written ▸ List.mem_cons_self)
    rw [List.nil_append]
    rw [written, List.map_cons, List.cons_append] at read ⊢
    rw [value_digit_eq_ok_iff digit, read, wholeNumber, if_pos (by decide),
      show (n.natAbs : Int) = n by omega]

/-- A finite double that reads back is read as itself wherever it is written. -/
theorem value_writeFinite {x : Double} (finite : x.isFinite = true) (back : ReadsBack x)
    (stops : StopsNumber rest) :
    value (bound + 1) depth ((documentStyle.writeFinite x).map .char ++ rest) =
      .ok (.number (.double x), rest) := by
  have chars : (Json.number (.double x)).chars = documentStyle.writeFinite x := by
    rw [Json.chars, numeralChars, if_pos finite]
  rw [ReadsBack, parse, Json.text, symbols, String.toList_ofList, chars] at back
  obtain ⟨after, read, blank⟩ := document_eq_ok_iff.mp back
  exact value_number_append (fun _ => isNumberChar_of_mem_writeFinite) read blank stops bound depth

/-- A number in range that is written is read as itself. -/
theorem value_numeralChars (range : n.InRange)
    (back : ∀ x, n = .double x → ReadsBack x) (stops : StopsNumber rest) :
    value (bound + 1) depth ((numeralChars n).map .char ++ rest) = .ok (.number n, rest) := by
  cases n with
  | integer n => exact value_integerChars range stops
  | double x =>
      have finite : x.isFinite = true := range
      rw [numeralChars, if_pos finite]
      exact value_writeFinite finite (back x rfl) stops

end RowFilter.Json
