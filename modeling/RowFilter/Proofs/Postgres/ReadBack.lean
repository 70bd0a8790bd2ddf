import RowFilter.Postgres.Row
import RowFilter.Predicate.Matching
import RowFilter.Proofs.Calendar.FourDigitYears
import RowFilter.Proofs.Postgres.WholeColumns
import RowFilter.Proofs.Predicate.TextKinds

/-!
# Bound values read back from a column

A value is bound to a parameter of a type, sent as octets, and read from a column of that type. What
is read need not be the value itself: an identifier comes back in lower case, and an instant in
universal time. A predicate that asks for the value finds it all the same, since it compares
identifiers without regard to case and dates by instant.

An instant of whole microseconds, outside a leap second, is found again from the number that the
database counts for it. That number fits 64 bits for every instant in use.
-/

namespace RowFilter.Postgres

open RowFilter.Calendar RowFilter.Filter RowFilter.Number

/-- Whether a column of a type keeps a value up to equality. Whole numbers that are too wide for the
column are among these values; they cannot be bound. -/
inductive ColumnType.Keeps : ColumnType → Value → Prop
  /-- Booleans are kept. -/
  | boolean (b : Bool) : Keeps .boolean (.boolean b)
  /-- Whole numbers are kept. -/
  | integer (width : IntegerWidth) (n : Int64) : Keeps (.integer width) (.integer n)
  /-- Texts are kept, unless the server leaves their type open: no such column is read. -/
  | text {kind : TextKind} (known : kind ≠ .unknown) (s : String) : Keeps (.text kind) (.text s)
  /-- Labels are kept. -/
  | label (name s : String) : Keeps (.enumeration name) (.text s)
  /-- Identifiers are kept up to case. -/
  | uuid {s : String} (canonical : Uuid.isUuid s = true) : Keeps .uuid (.text s)
  /-- Instants of whole milliseconds and four-digit years are kept, leap seconds apart. -/
  | instant (zoned : Bool) {s : String} {instant : Instant} (read : read? s = some instant)
      (millis : 1000000 ∣ instant.nanos) (within : instant.nanos < nanosPerSecond)
      (plain : instant.HasPlainYear) : Keeps (.timestamp zoned) (.text s)

/-! ### Instants -/

namespace Clock

variable {instant : Instant}

/-- Of whole microseconds nothing is cut off. -/
theorem microsOf_eq {micros : Nat} (whole : instant.nanos = micros * 1000) :
    microsOf instant = (instant.seconds - epochDay * 86400) * 1000000 + micros := by
  have scaled : (instant.seconds - epochDay * 86400) * nanosPerSecond + instant.nanos =
      ((instant.seconds - epochDay * 86400) * 1000000 + micros) * 1000 := by
    rw [whole, nanosPerSecond]
    omega
  rw [microsOf, scaled, Int.mul_tdiv_cancel _ (by decide)]

/-- An instant of whole microseconds is found again from its number. -/
theorem instantOf?_microsOf (inUse : instant.InUse) {micros : Nat}
    (whole : instant.nanos = micros * 1000) (within : micros < 1000000) :
    instantOf? (microsOf instant) = some instant := by
  have seconds : epochDay * 86400 + microsOf instant / 1000000 = instant.seconds := by
    rw [microsOf_eq whole]
    omega
  have nanos : (microsOf instant % 1000000).toNat * 1000 = instant.nanos := by
    rw [microsOf_eq whole]
    omega
  rw [instantOf?, seconds, nanos]
  exact if_pos inUse.date_isValid

/-- The number of every instant in use fits 64 bits. -/
theorem fits_microsOf (inUse : instant.InUse) :
    IntegerWidth.eight.fits (microsOf instant) = true := by
  have first := inUse.earliest
  have last := inUse.latest
  have nanos := inUse.nanos_lt
  have start : daysBeforeYear earliestYear = -95746130 := by decide
  have ending : daysBeforeYear (latestYear + 1) = 95745399 := by decide
  have bound : (twoTo (8 * IntegerWidth.eight.octets - 1) : Int) = 9223372036854775808 := rfl
  rw [start] at first
  rw [ending] at last
  rw [IntegerWidth.fits, bound, Bool.and_eq_true, decide_eq_true_eq, decide_eq_true_eq, microsOf,
    Int.tdiv_eq_ediv, show Int.sign 1000 = 1 from rfl]
  unfold nanosPerSecond epochDay daysBeforeEpoch at *
  split <;> omega

end Clock

/-! ### Octets -/

namespace Column

/-- The octets of a text are read as the text. -/
theorem textOf?_encode (s : String) : textOf? (Text.encode s) = some (.string s) := by
  rw [textOf?, Text.text?_encode, Option.map_some]

/-- A whole number that fits its width is read back from its octets. -/
theorem integerOf?_octetsOfInt {width : IntegerWidth} {n : Int} (fits : width.fits n = true) :
    integerOf? width (BigEndian.octetsOfInt width.octets n) = some n := by
  obtain ⟨low, high⟩ := (width.fits_iff n).mp fits
  have some_octets : 0 < width.octets := by cases width <;> decide
  rw [integerOf?, exactly, if_pos (BigEndian.length_octetsOfInt _ _), Option.map_some,
    BigEndian.intOfOctets_octetsOfInt some_octets low high]

/-- An instant of whole microseconds is read back as a date from the octets of its number. -/
theorem valueOf?_microsOf (zoned : Bool) {instant : Instant} (inUse : instant.InUse)
    (whole : 1000 ∣ instant.nanos) (within : instant.nanos < nanosPerSecond) :
    valueOf? (BigEndian.octetsOfInt 8 (Clock.microsOf instant)) (.timestamp zoned) =
      some (.string instant.text) := by
  obtain ⟨micros, parts⟩ := whole
  rw [Nat.mul_comm] at parts
  have counted : Clock.instantOf? (Clock.microsOf instant) = some instant :=
    Clock.instantOf?_microsOf inUse parts (by rw [parts, nanosPerSecond] at within; omega)
  have octets : integerOf? .eight (BigEndian.octetsOfInt 8 (Clock.microsOf instant)) =
      some (Clock.microsOf instant) := integerOf?_octetsOfInt (Clock.fits_microsOf inUse)
  rw [valueOf?, octets, Option.bind_some, counted, Option.map_some]

end Column

namespace Parameter

theorem ofValue?_of_bind {value : Value} (given : value.isNull = false) {type : ColumnType}
    {parameter : Parameter} (bound : bind value type = .ok parameter) :
    ofValue? value type = some parameter := by
  rw [bind, given, if_neg Bool.false_ne_true] at bound
  split at bound
  · rename_i found
    rwa [← Except.ok.inj bound]
  · cases bound

/-- A whole number that is bound fits the column and is bound as it is. -/
theorem fits_of_ofValue?_integer {width : IntegerWidth} {n : Int64} {parameter : Parameter}
    (bound : ofValue? (.integer n) (.integer width) = some parameter) :
    width.fits n.toInt = true ∧ parameter = .integer width n.toInt := by
  obtain ⟨m, kept, rfl⟩ := Option.map_eq_some_iff.mp bound
  obtain ⟨whole, fits⟩ := Option.filter_eq_some_iff.mp kept
  obtain rfl := Option.some.inj whole
  exact ⟨fits, rfl⟩

end Parameter

/-! ### Equality -/

section Equality

open Comparison

theorem order?_ofInt (n : Int64) : order? (.ofInt n.toInt) (.integer n) = some .eq := by
  have range : (Json.Numeral.integer n.toInt).InRange :=
    ⟨n.le_toInt, Int.lt_trans n.toInt_lt (by decide)⟩
  rw [Json.ofInt, order?_integer range, roundedOrder, if_pos rfl]

theorem order?_string (s : String) : order? (.string s) (.text s) = some .eq :=
  congrArg some (Std.ReflCmp.cmp_eq_of_eq rfl)

/-- An identifier is equal to its lower case. -/
theorem order?_lowercase {s : String} (canonical : Uuid.isUuid s = true) :
    order? (.string (Text.lowercase s)) (.text s) = some .eq := by
  have lowered := Uuid.isUuid_lowercase canonical
  rw [order?, orderOfTexts, read?_of_isUuid lowered, canonical, lowered,
    Uuid.lowercase_lowercase canonical]
  simp [orderOfCharacters_eq_compare]

/-- A date is equal to every text that is read as its instant. -/
theorem order?_of_read? {a b : String} {instant : Instant} (first : read? a = some instant)
    (second : read? b = some instant) : order? (.string a) (.text b) = some .eq := by
  have same : instant.compare instant = .eq := Std.ReflCmp.cmp_eq_of_eq rfl
  rw [order?, orderOfTexts, first, second]
  exact congrArg some same

end Equality

/-! ### From the parameter to the record -/

/-- What is read from the octets of a bound value is equal to the value. -/
theorem exists_equal_of_keeps {type : ColumnType} {value : Value} {parameter : Parameter}
    (keeps : type.Keeps value) (bound : Parameter.ofValue? value type = some parameter) :
    ∃ octets json, parameter.octets? = some octets ∧ Column.valueOf? octets type = some json ∧
      Comparison.order? json value = some .eq := by
  cases keeps with
  | boolean b =>
      obtain rfl := Option.some.inj bound
      exact ⟨_, .boolean b, rfl, by cases b <;> rfl, by cases b <;> rfl⟩
  | integer width n =>
      obtain ⟨fits, rfl⟩ := Parameter.fits_of_ofValue?_integer bound
      refine ⟨_, _, rfl, ?_, order?_ofInt n⟩
      rw [Column.valueOf?, Column.integerOf?_octetsOfInt fits, Option.map_some]
  | text known s =>
      obtain rfl := Option.some.inj bound
      exact ⟨_, _, rfl, Column.textOf?_encode s, order?_string s⟩
  | label name s =>
      obtain rfl := Option.some.inj bound
      exact ⟨_, _, rfl, Column.textOf?_encode s, order?_string s⟩
  | @uuid s canonical =>
      obtain ⟨octets, found, rfl⟩ := Option.map_eq_some_iff.mp bound
      obtain ⟨sixteen, written⟩ := Uuid.textOfOctets_of_isUuid canonical found
      refine ⟨octets, _, rfl, ?_, order?_lowercase canonical⟩
      rw [Column.valueOf?, Column.exactly, if_pos sixteen, Option.map_some, written]
  | @instant zoned s instant read millis within plain =>
      have inUse := inUse_of_read? read
      obtain ⟨_, found, rfl⟩ := Option.map_eq_some_iff.mp bound
      obtain rfl := Option.some.inj (read.symm.trans found)
      have rounded : instant.inMillis = instant := by
        rw [Instant.inMillis, Nat.div_mul_cancel millis]
      have readBack : read? instant.text = some instant :=
        (read?_text inUse plain.1 plain.2).trans (congrArg some rounded)
      exact ⟨_, _, rfl, Column.valueOf?_microsOf zoned inUse
        (Nat.dvd_trans (by decide) millis) within, order?_of_read? readBack read⟩

theorem ColumnType.Keeps.isReadable {type : ColumnType} {value : Value}
    (keeps : type.Keeps value) : Column.isReadable type = true := by
  cases keeps with
  | @text kind known s => cases kind <;> first | rfl | exact absurd rfl known
  | _ => rfl

theorem ColumnType.Keeps.isNull_eq_false {type : ColumnType} {value : Value}
    (keeps : type.Keeps value) : value.isNull = false := by
  cases keeps <;> rfl

/-- A value that is bound to a column that keeps it is sent as octets, these are read as the record
of the column, and the record satisfies the predicate that asks for the value. -/
theorem holds_of_bound_and_read {type : ColumnType} {value : Value} {parameter : Parameter}
    (keeps : type.Keeps value) (bound : Parameter.bind value type = .ok parameter)
    (field : String) :
    ∃ octets json, parameter.octets? = some octets ∧
      recordOf [⟨field, type⟩] [some octets] = .ok [(field, json)] ∧
      (Predicate.compare field .equal value).holds [(field, json)] = true := by
  have given := keeps.isNull_eq_false
  obtain ⟨octets, json, sent, found, equal⟩ :=
    exists_equal_of_keeps keeps (Parameter.ofValue?_of_bind given bound)
  refine ⟨octets, json, sent, ?_, ?_⟩
  · have read (index : Nat) : Column.read ⟨field, type⟩ index (some octets) = .ok json := by
      simp only [Column.read, keeps.isReadable, found]
      rfl
    simp only [recordOf, List.zip_cons_cons, List.zip_nil_left, recordFrom, read]
    rfl
  · have present : json.isNull = false := by
      cases json with
      | null => simp [Comparison.order?] at equal
      | _ => rfl
    have column : Predicate.column? [(field, json)] field = some json := by
      rw [Predicate.column?, List.lookup_cons_self, Option.filter_some, present]
      rfl
    rw [Predicate.holds, column]
    simp only [Predicate.compares, given, Option.bind_some, equal]
    rfl

/-- An identifier in capital letters and a moment given by local time are found again, though what
is read is spelled otherwise. -/
theorem sample_identifier_and_moment_found :
    (∃ parameter octets json,
      Parameter.bind (.text "550E8400-E29B-41D4-A716-446655440000") .uuid = .ok parameter ∧
      parameter.octets? = some octets ∧
      recordOf [⟨"id", .uuid⟩] [some octets] = .ok [("id", json)] ∧
      (Predicate.compare "id" .equal (.text "550E8400-E29B-41D4-A716-446655440000")).holds
        [("id", json)] = true) ∧
    ∃ parameter octets json,
      Parameter.bind (.text "2024-02-29T23:30:00.250-02:00") (.timestamp true) = .ok parameter ∧
      parameter.octets? = some octets ∧
      recordOf [⟨"seen", .timestamp true⟩] [some octets] = .ok [("seen", json)] ∧
      (Predicate.compare "seen" .equal (.text "2024-02-29T23:30:00.250-02:00")).holds
        [("seen", json)] = true := by
  have canonical : Uuid.isUuid "550E8400-E29B-41D4-A716-446655440000" = true := by decide +kernel
  have moment : read? "2024-02-29T23:30:00.250-02:00" = some ⟨1709256600, 250000000⟩ := by
    decide +kernel
  have plain : Instant.HasPlainYear ⟨1709256600, 250000000⟩ := by
    unfold Instant.HasPlainYear
    decide +kernel
  constructor
  · have accepted : Schema.FieldType.uuid.accepts
        (.text "550E8400-E29B-41D4-A716-446655440000") = true := canonical
    obtain ⟨parameter, bound⟩ := Parameter.exists_bind_of_suits .uuid accepted
    obtain ⟨octets, json, found⟩ := holds_of_bound_and_read (.uuid canonical) bound "id"
    exact ⟨parameter, octets, json, bound, found⟩
  · have accepted : Schema.FieldType.date.accepts
        (.text "2024-02-29T23:30:00.250-02:00") = true := congrArg Option.isSome moment
    obtain ⟨parameter, bound⟩ := Parameter.exists_bind_of_suits (.date true) accepted
    obtain ⟨octets, json, found⟩ :=
      holds_of_bound_and_read (.instant true moment (by decide) (by decide) plain) bound "seen"
    exact ⟨parameter, octets, json, bound, found⟩

end RowFilter.Postgres
