import RowFilter.Json.Token
import RowFilter.Proofs.Filter.Folding
import RowFilter.Proofs.Number.Digits

/-!
# Numbers of a document

A number is read up to a symbol that it cannot go on with, whatever comes after that. A whole number
that is written is read as itself.
-/

namespace RowFilter.Json

open Number RowFilter.Filter

/-- Whether a number that stands before a text ends there: the text goes on with neither a digit nor
a point nor an exponent. -/
def StopsNumber (rest : Source) : Prop :=
  ∀ symbol ∈ rest.head?, digit? symbol = none ∧ symbol ≠ .char '.' ∧ symbol ≠ .char 'e' ∧
    symbol ≠ .char 'E'

/-- Whether a reader of numbers reads no more than it has to: what it leaves is the end of the text,
and after a longer text it leaves as much more. -/
def Stops {α : Type} (reader : Source → Attempt (α × Source)) : Prop :=
  ∀ {text value after}, reader text = .ok (value, after) →
    after <:+ text ∧ ∀ {rest}, StopsNumber rest →
      reader (text ++ rest) = .ok (value, after ++ rest)

variable {text rest after : Source}

/-- A reader that stops may be used after a symbol. -/
theorem Stops.cons {α : Type} {reader : Source → Attempt (α × Source)} (stops : Stops reader)
    (symbol : Text.Symbol) {value : α} (given : reader text = .ok (value, after)) :
    after <:+ symbol :: text ∧ ∀ {rest}, StopsNumber rest →
      reader (text ++ rest) = .ok (value, after ++ rest) :=
  ⟨(stops given).1.trans (List.suffix_cons symbol text), (stops given).2⟩

/-! ### Digits -/

theorem takeDigits_of_stops (significand : Nat) (stops : StopsNumber rest) :
    takeDigits significand rest = ⟨significand, 0, rest⟩ := by
  cases rest with
  | nil => rfl
  | cons symbol rest =>
      rw [takeDigits, (stops symbol rfl).1]

theorem takeDigits_append (significand : Nat) (text : Source) (stops : StopsNumber rest) :
    takeDigits significand (text ++ rest) =
      { takeDigits significand text with rest := (takeDigits significand text).rest ++ rest } := by
  induction text generalizing significand with
  | nil => exact takeDigits_of_stops significand stops
  | cons symbol text ih =>
      rw [List.cons_append, takeDigits, takeDigits]
      cases digit? symbol with
      | none => rfl
      | some digit =>
          dsimp only
          split
          · rfl
          · rw [ih]

theorem takeDigits_suffix (significand : Nat) (text : Source) :
    (takeDigits significand text).rest <:+ text := by
  induction text generalizing significand with
  | nil => exact List.suffix_refl []
  | cons symbol text ih =>
      rw [takeDigits]
      cases digit? symbol with
      | none => exact List.suffix_refl _
      | some digit =>
          dsimp only
          split
          · exact List.suffix_refl _
          · exact (ih _).trans (List.suffix_cons symbol text)

theorem takeDigits_le {significand : Nat} (le : significand ≤ greatestSignificand)
    (text : Source) : (takeDigits significand text).significand ≤ greatestSignificand := by
  induction text generalizing significand with
  | nil => exact le
  | cons symbol text ih =>
      rw [takeDigits]
      cases digit? symbol with
      | none => exact le
      | some digit =>
          dsimp only
          split
          · exact le
          · rename_i fits
            exact ih (Nat.le_of_not_lt fits)

theorem skipDigits_of_stops (stops : StopsNumber rest) : skipDigits rest = (0, rest) := by
  cases rest with
  | nil => rfl
  | cons symbol rest =>
      rw [skipDigits, (stops symbol rfl).1]
      rfl

theorem skipDigits_append (text : Source) (stops : StopsNumber rest) :
    skipDigits (text ++ rest) = ((skipDigits text).1, (skipDigits text).2 ++ rest) := by
  induction text with
  | nil => exact skipDigits_of_stops stops
  | cons symbol text ih =>
      rw [List.cons_append, skipDigits, skipDigits]
      split
      · rw [ih]
      · rfl

theorem skipDigits_suffix (text : Source) : (skipDigits text).2 <:+ text := by
  induction text with
  | nil => exact List.suffix_refl []
  | cons symbol text ih =>
      rw [skipDigits]
      split
      · exact ih.trans (List.suffix_cons symbol text)
      · exact List.suffix_refl _

/-- The digits of an exponent that is within the bound are read up to a symbol that is none. -/
theorem exponentDigits_within {exponent total : Nat}
    (read : exponentDigits exponent text = .within total after) :
    after <:+ text ∧ ∀ {rest}, StopsNumber rest →
      exponentDigits exponent (text ++ rest) = .within total (after ++ rest) := by
  induction text generalizing exponent with
  | nil =>
      cases read
      refine ⟨List.suffix_refl [], fun {rest} stops => ?_⟩
      cases rest with
      | nil => rfl
      | cons symbol rest => rw [List.nil_append, exponentDigits, (stops symbol rfl).1]
  | cons symbol text ih =>
      rw [exponentDigits] at read
      simp only [List.cons_append, exponentDigits]
      cases digit : digit? symbol with
      | none =>
          rw [digit] at read
          cases read
          exact ⟨List.suffix_refl _, fun _ => rfl⟩
      | some d =>
          simp only [digit] at read ⊢
          split at read
          · cases read
          · obtain ⟨suffix, more⟩ := ih read
            refine ⟨suffix.trans (List.suffix_cons symbol text), fun stops => ?_⟩
            rw [if_neg ‹_›, more stops]

/-- The digits of an exponent beyond the bound are read up to the first that is too many. -/
theorem exponentDigits_beyond {exponent : Nat}
    (read : exponentDigits exponent text = .beyond after) :
    after <:+ text ∧ ∀ rest, exponentDigits exponent (text ++ rest) = .beyond (after ++ rest) := by
  induction text generalizing exponent with
  | nil => cases read
  | cons symbol text ih =>
      rw [exponentDigits] at read
      simp only [List.cons_append, exponentDigits]
      cases digit : digit? symbol with
      | none =>
          rw [digit] at read
          cases read
      | some d =>
          simp only [digit] at read ⊢
          split at read
          · cases read
            exact ⟨List.suffix_cons symbol _, fun rest => if_pos ‹_›⟩
          · obtain ⟨suffix, more⟩ := ih read
            refine ⟨suffix.trans (List.suffix_cons symbol text), fun rest => ?_⟩
            rw [if_neg ‹_›, more rest]

/-! ### Numbers before a text -/

theorem stops_scaledNumber (negative : Bool) (significand : Nat) (exponent : Int) :
    Stops (scaledNumber negative significand exponent) := by
  intro text value after given
  unfold scaledNumber at given ⊢
  cases scaled : scaled? significand exponent with
  | none => simp [scaled] at given
  | some x =>
      simp only [scaled, Except.ok.injEq, Prod.mk.injEq] at given ⊢
      obtain ⟨rfl, rfl⟩ := given
      exact ⟨List.suffix_refl _, fun _ => ⟨rfl, rfl⟩⟩

/-- Reads the digits of an exponent after its sign. -/
def unsignedExponent (negative : Bool) (significand : Nat) (start : Int) (below : Bool)
    (text : Source) : Attempt (Numeral × Source) :=
  match text with
  | [] => .error (.at .endInValue [] 0)
  | symbol :: rest =>
    match digit? symbol with
    | none => .error (.at .badNumber (symbol :: rest) 1)
    | some digit =>
      match exponentDigits digit rest with
      | .within exponent rest =>
        scaledNumber negative significand
          (if below then start - exponent else start + exponent) rest
      | .beyond rest =>
        if significand ≠ 0 && !below then .error (.at .numberOutOfRange rest 0)
        else .ok (.double (.zero negative), (skipDigits rest).2)

theorem exponentPart_cons (negative : Bool) (significand : Nat) (start : Int)
    (symbol : Text.Symbol) (rest : Source) :
    exponentPart negative significand start (symbol :: rest) =
      if symbol = .char '+' then unsignedExponent negative significand start false rest
      else if symbol = .char '-' then unsignedExponent negative significand start true rest
      else unsignedExponent negative significand start false (symbol :: rest) := by
  by_cases plus : symbol = .char '+'
  · subst plus
    rfl
  · by_cases minus : symbol = .char '-'
    · subst minus
      rfl
    · rw [if_neg plus, if_neg minus]
      unfold exponentPart
      split
      · rename_i same
        split at same
        · rename_i start
          exact absurd (List.cons.inj start).1 plus
        · rename_i start
          exact absurd (List.cons.inj start).1 minus
        · obtain ⟨rfl, rfl⟩ := Prod.mk.inj same
          rfl

theorem stops_unsignedExponent (negative : Bool) (significand : Nat) (start : Int) (below : Bool) :
    Stops (unsignedExponent negative significand start below) := by
  intro text value after given
  cases text with
  | nil => cases given
  | cons symbol text =>
      simp only [unsignedExponent, List.cons_append] at given ⊢
      cases digit : digit? symbol with
      | none => simp [digit] at given
      | some d =>
          simp only [digit] at given ⊢
          cases read : exponentDigits d text with
          | within exponent last =>
              rw [read] at given
              obtain ⟨suffix, more⟩ := exponentDigits_within read
              obtain ⟨suffix', more'⟩ := stops_scaledNumber _ _ _ given
              refine ⟨(suffix'.trans suffix).trans (List.suffix_cons symbol text), fun stops => ?_⟩
              rw [more stops]
              exact more' stops
          | beyond last =>
              rw [read] at given
              obtain ⟨suffix, more⟩ := exponentDigits_beyond read
              dsimp only at given
              split at given
              · cases given
              · obtain ⟨rfl, rfl⟩ := Prod.mk.inj (Except.ok.inj given)
                refine ⟨((skipDigits_suffix last).trans suffix).trans
                  (List.suffix_cons symbol text), fun {rest} stops => ?_⟩
                rw [more rest]
                dsimp only
                rw [if_neg ‹_›, skipDigits_append last stops]

theorem stops_exponentPart (negative : Bool) (significand : Nat) (start : Int) :
    Stops (exponentPart negative significand start) := by
  intro text value after given
  cases text with
  | nil => cases given
  | cons symbol text =>
      rw [exponentPart_cons] at given
      simp only [List.cons_append, exponentPart_cons]
      split_ifs at given ⊢ with plus minus
      · exact Stops.cons (stops_unsignedExponent _ _ _ _) symbol given
      · exact Stops.cons (stops_unsignedExponent _ _ _ _) symbol given
      · exact stops_unsignedExponent _ _ _ _ given

theorem exponentOrEnd_cons (negative : Bool) (significand : Nat) (exponent : Int)
    (symbol : Text.Symbol) (rest : Source) :
    exponentOrEnd negative significand exponent (symbol :: rest) =
      if symbol = .char 'e' ∨ symbol = .char 'E' then
        exponentPart negative significand exponent rest
      else scaledNumber negative significand exponent (symbol :: rest) := by
  unfold exponentOrEnd
  split
  · rename_i start
    obtain ⟨rfl, rfl⟩ := List.cons.inj start
    rw [if_pos (.inl rfl)]
  · rename_i start
    obtain ⟨rfl, rfl⟩ := List.cons.inj start
    rw [if_pos (.inr rfl)]
  · rename_i small capital
    have other : ¬ (symbol = .char 'e' ∨ symbol = .char 'E') := by
      rintro (rfl | rfl)
      · exact small rest rfl
      · exact capital rest rfl
    rw [if_neg other]

theorem stops_exponentOrEnd (negative : Bool) (significand : Nat) (exponent : Int) :
    Stops (exponentOrEnd negative significand exponent) := by
  intro text value after given
  cases text with
  | nil =>
      obtain ⟨suffix, more⟩ := stops_scaledNumber negative significand exponent given
      refine ⟨suffix, fun {rest} stops => ?_⟩
      cases rest with
      | nil => exact more stops
      | cons symbol rest =>
          obtain ⟨_, _, small, capital⟩ := stops symbol rfl
          rw [List.nil_append, exponentOrEnd_cons, if_neg (by simp [small, capital])]
          exact more stops
  | cons symbol text =>
      rw [exponentOrEnd_cons] at given
      simp only [List.cons_append, exponentOrEnd_cons]
      split_ifs at given ⊢ with mark
      · exact Stops.cons (stops_exponentPart _ _ _) symbol given
      · exact stops_scaledNumber _ _ _ given

theorem stops_fractionPart (negative : Bool) (significand : Nat) (exponent : Int) :
    Stops (fractionPart negative significand exponent) := by
  intro text value after given
  unfold fractionPart at given ⊢
  dsimp only at given ⊢
  split at given
  · cases given
  · rename_i some_digit
    obtain ⟨suffix, more⟩ := stops_exponentOrEnd _ _ _ given
    refine ⟨(suffix.trans (skipDigits_suffix _)).trans (takeDigits_suffix significand text),
      fun {rest} stops => ?_⟩
    rw [takeDigits_append significand text stops]
    dsimp only
    rw [skipDigits_append _ stops, if_neg some_digit]
    exact more stops

/-- What ends a number after its digits, of which some may not have fitted. -/
def wholeOrScaled (negative : Bool) (significand extra : Nat) (text : Source) :
    Attempt (Numeral × Source) :=
  if extra = 0 then .ok (wholeNumber negative significand, text)
  else scaledNumber negative significand extra text

theorem stops_wholeOrScaled (negative : Bool) (significand extra : Nat) :
    Stops (wholeOrScaled negative significand extra) := by
  intro text value after given
  unfold wholeOrScaled at given ⊢
  split_ifs at given ⊢ with none
  · obtain ⟨rfl, rfl⟩ := Prod.mk.inj (Except.ok.inj given)
    exact ⟨List.suffix_refl _, fun _ => rfl⟩
  · exact stops_scaledNumber _ _ _ given

theorem afterWhole_cons (negative : Bool) (significand extra : Nat) (symbol : Text.Symbol)
    (rest : Source) :
    afterWhole negative significand extra (symbol :: rest) =
      if symbol = .char '.' then fractionPart negative significand extra rest
      else if symbol = .char 'e' ∨ symbol = .char 'E' then
        exponentPart negative significand extra rest
      else wholeOrScaled negative significand extra (symbol :: rest) := by
  unfold afterWhole
  split
  · rename_i start
    obtain ⟨rfl, rfl⟩ := List.cons.inj start
    rw [if_pos rfl]
  · rename_i start
    obtain ⟨rfl, rfl⟩ := List.cons.inj start
    rw [if_neg (by decide), if_pos (.inl rfl)]
  · rename_i start
    obtain ⟨rfl, rfl⟩ := List.cons.inj start
    rw [if_neg (by decide), if_pos (.inr rfl)]
  · rename_i point small capital
    have noPoint : symbol ≠ .char '.' := by
      rintro rfl
      exact point rest rfl
    have noMark : ¬ (symbol = .char 'e' ∨ symbol = .char 'E') := by
      rintro (rfl | rfl)
      · exact small rest rfl
      · exact capital rest rfl
    rw [if_neg noPoint, if_neg noMark]
    rfl

theorem afterWhole_of_stops (negative : Bool) (significand extra : Nat)
    (stops : StopsNumber rest) :
    afterWhole negative significand extra rest = wholeOrScaled negative significand extra rest := by
  cases rest with
  | nil => rfl
  | cons symbol rest =>
      obtain ⟨_, point, small, capital⟩ := stops symbol rfl
      rw [afterWhole_cons, if_neg point, if_neg (by simp [small, capital])]

theorem stops_afterWhole (negative : Bool) (significand extra : Nat) :
    Stops (afterWhole negative significand extra) := by
  intro text value after given
  cases text with
  | nil =>
      obtain ⟨suffix, more⟩ := stops_wholeOrScaled negative significand extra given
      refine ⟨suffix, fun {rest} stops => ?_⟩
      rw [List.nil_append, afterWhole_of_stops _ _ _ stops]
      exact more stops
  | cons symbol text =>
      rw [afterWhole_cons] at given
      simp only [List.cons_append, afterWhole_cons]
      split_ifs at given ⊢ with point mark
      · exact Stops.cons (stops_fractionPart _ _ _) symbol given
      · exact Stops.cons (stops_exponentPart _ _ _) symbol given
      · exact stops_wholeOrScaled _ _ _ given

theorem numeral_cons (negative : Bool) (symbol : Text.Symbol) (rest : Source) :
    numeral negative (symbol :: rest) =
      match digit? symbol with
      | none => .error (.at .badNumber (symbol :: rest) 1)
      | some digit =>
        if digit = 0 then
          if (rest.head?.bind digit?).isSome then .error (.at .badNumber rest 1)
          else afterWhole negative 0 0 rest
        else
          let digits := takeDigits digit rest
          afterWhole negative digits.significand (skipDigits digits.rest).1
            (skipDigits digits.rest).2 := by
  unfold numeral
  dsimp only
  cases digit? symbol with
  | none => rfl
  | some digit =>
      cases digit with
      | zero =>
          cases rest with
          | nil => simp
          | cons next rest => rfl
      | succ digit => rfl

/-- A number is read up to where a text after it stops it. -/
theorem stops_numeral (negative : Bool) : Stops (numeral negative) := by
  intro text value after given
  cases text with
  | nil => cases given
  | cons symbol text =>
      rw [numeral_cons] at given
      simp only [List.cons_append, numeral_cons]
      cases digit : digit? symbol with
      | none => simp [digit] at given
      | some d =>
          simp only [digit] at given ⊢
          split_ifs at given with zero followed
          · obtain ⟨suffix, more⟩ := Stops.cons (stops_afterWhole _ _ _) symbol given
            refine ⟨suffix, fun {rest} stops => ?_⟩
            have alone : ¬ (((text ++ rest).head?.bind digit?).isSome = true) := by
              cases text with
              | cons next text => exact followed
              | nil =>
                  cases rest with
                  | nil => exact followed
                  | cons next rest => simp [(stops next rfl).1]
            rw [if_pos zero, if_neg alone]
            exact more stops
          · obtain ⟨suffix, more⟩ := stops_afterWhole _ _ _ given
            refine ⟨((suffix.trans (skipDigits_suffix _)).trans
              (takeDigits_suffix d text)).trans (List.suffix_cons symbol text),
              fun {rest} stops => ?_⟩
            rw [if_neg zero, takeDigits_append d text stops]
            dsimp only
            rw [skipDigits_append _ stops]
            exact more stops

/-! ### Whole numbers that are written -/

theorem takeDigits_digits {chars : List Char} (digits : ∀ c ∈ chars, c.isDigit = true)
    (significand : Nat) (fits : Nat.ofDigitChars 10 chars significand ≤ greatestSignificand)
    (stops : StopsNumber rest) :
    takeDigits significand (chars.map .char ++ rest) =
      ⟨Nat.ofDigitChars 10 chars significand, chars.length, rest⟩ := by
  induction chars generalizing significand with
  | nil => exact takeDigits_of_stops significand stops
  | cons c chars ih =>
      rw [List.forall_mem_cons] at digits
      rw [Nat.ofDigitChars_cons] at fits ⊢
      have found : digit? (.char c) = some (c.toNat - '0'.toNat) := digitValue?_of_isDigit digits.1
      have within := Nat.le_trans (le_ofDigitChars chars _) fits
      rw [List.map_cons, List.cons_append, takeDigits, found]
      dsimp only
      rw [if_neg (Nat.not_lt.mpr within), ih digits.2 _ fits]
      rfl

/-- A number that is not zero is read from its first digit and the digits after that. -/
theorem exists_numeral_digitChars (negative : Bool) {n : Nat} (positive : 0 < n) :
    ∃ first chars, first < 10 ∧ (∀ c ∈ chars, c.isDigit = true) ∧
      Nat.ofDigitChars 10 chars first = n ∧ ∀ rest,
        numeral negative ((digitChars n).map .char ++ rest) =
          afterWhole negative (takeDigits first (chars.map .char ++ rest)).significand
            (skipDigits (takeDigits first (chars.map .char ++ rest)).rest).1
            (skipDigits (takeDigits first (chars.map .char ++ rest)).rest).2 := by
  obtain ⟨c, chars, written, nonzero⟩ := exists_toDigits_eq_cons positive
  have digits : ∀ d ∈ c :: chars, d.isDigit = true := fun d hd =>
    Nat.isDigit_of_mem_toDigits (b := 10) (n := n) (by decide) (by decide) (written ▸ hd)
  rw [List.forall_mem_cons] at digits
  have total : Nat.ofDigitChars 10 chars (c.toNat - '0'.toNat) = n := by
    have whole : Nat.ofDigitChars 10 (Nat.toDigits 10 n) 0 = n := Nat.ofDigitChars_ten_toDigits
    rw [written, Nat.ofDigitChars_cons, Nat.mul_zero, Nat.zero_add] at whole
    exact whole
  have first : digit? (.char c) = some (c.toNat - '0'.toNat) := digitValue?_of_isDigit digits.1
  have notZero : c.toNat - '0'.toNat ≠ 0 := by
    have low : '0'.toNat ≤ c.toNat := by
      have bounds := digits.1
      simp only [Char.isDigit, Bool.and_eq_true, decide_eq_true_eq, ge_iff_le,
        UInt32.le_iff_toNat_le] at bounds
      exact bounds.1
    have different : c.toNat ≠ '0'.toNat := fun same => nonzero (Char.toNat_inj.mp same)
    omega
  refine ⟨_, chars, digitValue?_lt_ten first, digits.2, total, fun rest => ?_⟩
  rw [digitChars, written, List.map_cons, List.cons_append, numeral_cons, first]
  dsimp only
  rw [if_neg notZero]

/-- The digits of a number that fits a significand are read as the number. -/
theorem numeral_digitChars (negative : Bool) {n : Nat} (fits : n ≤ greatestSignificand)
    (stops : StopsNumber rest) :
    numeral negative ((digitChars n).map .char ++ rest) = .ok (wholeNumber negative n, rest) := by
  have alone : (rest.head?.bind digit?).isSome = false := by
    cases rest with
    | nil => rfl
    | cons symbol rest => simp [(stops symbol rfl).1]
  rcases Nat.eq_zero_or_pos n with rfl | positive
  · have zero : digit? (.char '0') = some 0 := by decide
    rw [show digitChars 0 = ['0'] from rfl, List.map_singleton, List.singleton_append, numeral_cons,
      zero]
    dsimp only
    rw [if_pos rfl, alone, if_neg Bool.false_ne_true, afterWhole_of_stops _ _ _ stops]
    rfl
  · obtain ⟨first, chars, _, digits, total, read⟩ := exists_numeral_digitChars negative positive
    rw [read, takeDigits_digits digits first (total.symm ▸ fits) stops, total,
      skipDigits_of_stops stops, afterWhole_of_stops _ _ _ stops]
    rfl

end RowFilter.Json
