import RowFilter.Proofs.Calendar.Stamps
import RowFilter.Proofs.Sql.Databases
import RowFilter.Proofs.Sql.StatementFailures

/-!
# Dates in statements

A statement carries a date as an instant written to the millisecond, while the predicate of the same
condition keeps the whole instant. Writing an instant moves it back by less than a millisecond, so
the two give different verdicts only on a column that lies between the written instant and the
value.
-/

namespace RowFilter.Calendar.Instant

/-- One instant is before another if its second is, or its nanosecond within the same second. -/
theorem compare_eq_lt_iff (a b : Instant) :
    a.compare b = .lt ↔ a.seconds < b.seconds ∨ a.seconds = b.seconds ∧ a.nanos < b.nanos := by
  rw [compare, Ordering.then_eq_lt, compare_lt_iff_lt, compare_eq_iff_eq, compare_lt_iff_lt]

theorem compare_eq_gt_iff (a b : Instant) :
    a.compare b = .gt ↔ b.seconds < a.seconds ∨ a.seconds = b.seconds ∧ b.nanos < a.nanos := by
  rw [compare, Ordering.then_eq_gt, compare_gt_iff_gt, compare_eq_iff_eq, compare_gt_iff_gt]

/-- An instant compares with a rounded one as with the instant itself, unless it lies between. -/
theorem compare_inMillis {instant bound : Instant}
    (outside : bound.inMillis = bound ∨ instant.compare bound.inMillis = .lt ∨
      instant.compare bound = .gt) :
    instant.compare bound.inMillis = instant.compare bound := by
  have rounded : bound.inMillis.nanos ≤ bound.nanos := Nat.div_mul_le_self _ _
  have second : bound.inMillis.seconds = bound.seconds := rfl
  rcases outside with same | before | after
  · rw [same]
  · rw [before, eq_comm, compare_eq_lt_iff]
    rw [compare_eq_lt_iff] at before
    omega
  · rw [after, compare_eq_gt_iff]
    rw [compare_eq_gt_iff] at after
    omega

end RowFilter.Calendar.Instant

namespace RowFilter.Sql

open RowFilter.Calendar RowFilter.Calendar.Instant RowFilter.Comparison RowFilter.Filter
open RowFilter.Schema RowFilter.Validation

/-- The instant that a value is read as. -/
def readInstant? (value : Value) : Option Instant := value.text?.bind read?

/-- The instant that a literal denotes. -/
def Literal.instant? : Literal → Option Instant
  | .text s => stamp? s.toList
  | _ => none

/-- The database that compares columns and literals as instants. -/
def byInstant : Database Literal where
  order json written := match json with
    | .string text => (read? text).bind fun instant => written.instant?.map instant.compare
    | _ => none
  fits _ _ := .unknown

theorem orderOf_byInstant (text : String) (written : Literal) :
    byInstant.orderOf (some (.string text)) written =
      (read? text).bind fun instant => written.instant?.map instant.compare :=
  rfl

/-- A date is written as its instant, rounded down to the millisecond. -/
theorem instant?_of_literal {field : Field} {value : Value} {written : Literal}
    (dated : field.type = .date) (hwritten : literal field value = .ok written) :
    written.instant? = (readInstant? value).map Instant.inMillis := by
  rw [literal_eq_ok_iff] at hwritten
  unfold literal? at hwritten
  rw [dated] at hwritten
  obtain ⟨instant, found, rfl⟩ := Option.map_eq_some_iff.mp hwritten
  obtain ⟨text, isText, read⟩ := Option.bind_eq_some_iff.mp found
  show stamp? instant.text.toList = _
  rw [readInstant?, found, Instant.text, String.toList_ofList, stamp?_chars (inUse_of_read? read)]
  rfl

theorem order?_of_instant {text : String} {instant bound : Instant} {value : Value}
    (read : read? text = some instant) (found : readInstant? value = some bound) :
    order? (.string text) value = some (instant.compare bound) := by
  obtain ⟨other, isText, hother⟩ := Option.bind_eq_some_iff.mp found
  rw [order?_string, isText, Option.map_some, orderOfTexts, read, hother]

theorem writtenOrder_byInstant {field : Field} {value : Value} {text : String}
    {instant bound : Instant} (dated : field.type = .date) (read : read? text = some instant)
    (found : readInstant? value = some bound) :
    writtenOrder byInstant field (some (.string text)) value =
      some (instant.compare bound.inMillis) := by
  have accepted : field.type.accepts value = true := by
    rw [dated]
    exact Option.isSome_of_eq_some found
  obtain ⟨written, hwritten⟩ := literal_of_accepts accepted
  rw [writtenOrder_of_literal hwritten, orderOf_byInstant, read, instant?_of_literal dated hwritten,
    found]
  rfl

/-- Where all values of a condition are read as instants, only the order with these matters. -/
theorem holdsBy_of_readable {condition : Condition} {order : Value → Option Ordering}
    {bounds : Instant → Ordering}
    (readable : ∀ value ∈ condition.values, ∃ bound, readInstant? value = some bound)
    (agree : ∀ value ∈ condition.values, ∀ bound, readInstant? value = some bound →
      order value = some (bounds bound)) :
    condition.holdsBy order = condition.holdsBy fun value => (readInstant? value).map bounds := by
  apply Condition.holdsBy_congr
  intro value member
  obtain ⟨bound, hbound⟩ := readable value member
  rw [agree value member bound hbound, hbound, Option.map_some]

/-- A condition on a date is decided on a column that is read as an instant in two ways. Its
predicate compares the column with the instants of its values. Its clause denotes these instants
rounded down to the millisecond, and a database that compares instants goes by them. Both verdicts
are the same if no value has lost anything, or the column does not lie between a value and what is
written for it. -/
theorem verdict_of_written_dates {registry : Registry} {condition : Condition} {field : Field}
    {predicate : Predicate} {record : Record} {text : String} {instant : Instant}
    (found : registry.find? condition.field = some field) (dated : field.type = .date)
    (comparing : condition.operator.kind.compares = true)
    (clean : conditionIssues registry condition = [])
    (compiled : Predicate.ofCondition condition = .ok predicate)
    (column : record.lookup condition.field = some (.string text))
    (read : read? text = some instant) :
    predicate.holds record =
      condition.holdsBy (fun value => (readInstant? value).map instant.compare) ∧
    ∃ clause, conditionClause registry condition = .ok clause ∧
      clause.operands.map Literal.instant? =
        condition.values.map (fun value => (readInstant? value).map Instant.inMillis) ∧
      (clause.truthIn byInstant record = .yes ↔ condition.holdsBy (fun value =>
        (readInstant? value).map fun bound => instant.compare bound.inMillis) = true) ∧
      ((∀ value ∈ condition.values, ∀ bound ∈ readInstant? value,
          bound.inMillis = bound ∨ instant.compare bound.inMillis = .lt ∨
            instant.compare bound = .gt) →
        (clause.truthIn byInstant record = .yes ↔ predicate.holds record = true)) := by
  have present : record.value? condition.field = some (.string text) :=
    Record.value?_of_lookup column rfl
  have readable : ∀ value ∈ condition.values, ∃ bound, readInstant? value = some bound := by
    intro value member
    have accepted := accepts_of_mem_values found clean value member
    rw [dated] at accepted
    exact Option.isSome_iff_exists.mp accepted
  have exact_verdict : predicate.holds record =
      condition.holdsBy (fun value => (readInstant? value).map instant.compare) := by
    rw [Predicate.holds_eq_holdsBy comparing compiled record, present]
    apply holdsBy_of_readable readable
    intro value _ bound
    exact order?_of_instant read
  obtain ⟨clause, hclause, written⟩ := exists_fieldClause found clean compiled
  have compared := comparingClause_of_fieldClause comparing written
  have written_verdict : condition.holdsBy (writtenOrder byInstant field (some (.string text))) =
      condition.holdsBy (fun value =>
        (readInstant? value).map fun bound => instant.compare bound.inMillis) := by
    apply holdsBy_of_readable readable
    intro value _ bound
    exact writtenOrder_byInstant dated read
  refine ⟨exact_verdict, clause, hclause, ?_, ?_, fun outside => ?_⟩
  · apply map_eq_map_of_forall₂ compared.literals
    intro value _ literal hliteral
    exact instant?_of_literal dated hliteral
  · rw [compared.truthIn_iff, present, written_verdict]
  · have same : condition.holdsBy (fun value =>
          (readInstant? value).map fun bound => instant.compare bound.inMillis) =
        condition.holdsBy (fun value => (readInstant? value).map instant.compare) := by
      apply holdsBy_of_readable readable
      intro value member bound hbound
      rw [hbound]
      exact congrArg some (compare_inMillis (outside value member bound hbound))
    rw [compared.truthIn_iff, present, written_verdict, same, exact_verdict]

/-- A row of the users, created when the sample range begins. -/
def sampleCreated : Record := [("createdAt", .string "2024-01-15T10:30:00.000Z")]

/-- A range whose bounds are written with offsets and without milliseconds. -/
def sampleRange : Condition :=
  ⟨"createdAt", .between,
    some (.list [.text "2024-01-15T11:30:00+01:00", .text "2024-01-16"])⟩

/-- Nothing is lost by writing the bounds, so the clause and the predicate agree. -/
theorem sample_range_written :
    conditionIssues Users.registry sampleRange = [] ∧
      ∃ predicate clause, Predicate.ofCondition sampleRange = .ok predicate ∧
        conditionClause Users.registry sampleRange = .ok clause ∧
        (clause.truthIn byInstant sampleCreated = .yes ↔ predicate.holds sampleCreated = true) := by
  have clean : conditionIssues Users.registry sampleRange = [] := by decide +kernel
  have column : sampleCreated.lookup "createdAt" = some (.string "2024-01-15T10:30:00.000Z") := rfl
  have created : read? "2024-01-15T10:30:00.000Z" = some ⟨1705314600, 0⟩ := by decide +kernel
  have low : readInstant? (.text "2024-01-15T11:30:00+01:00") = some ⟨1705314600, 0⟩ := by
    decide +kernel
  have high : readInstant? (.text "2024-01-16") = some ⟨1705363200, 0⟩ := by decide +kernel
  obtain ⟨_, clause, hclause, _, _, agree⟩ :=
    verdict_of_written_dates rfl rfl rfl clean rfl column created
  refine ⟨clean, _, clause, rfl, hclause, agree ?_⟩
  intro value member bound hbound
  obtain rfl | rfl : value = .text "2024-01-15T11:30:00+01:00" ∨ value = .text "2024-01-16" := by
    simpa using List.mem_pair.mp member
  · obtain rfl := Option.some.inj (low.symm.trans hbound)
    exact .inl rfl
  · obtain rfl := Option.some.inj (high.symm.trans hbound)
    exact .inl rfl

/-- A moment half a millisecond after a row was created. -/
def sampleMoment : Condition :=
  ⟨"createdAt", .gte, some (.text "2024-01-15T10:30:00.0005Z")⟩

/-- The predicate does not hold of the row, which is too early, but the moment is written as the
instant of the row, and the statement selects it. -/
theorem sample_moment_written :
    conditionIssues Users.registry sampleMoment = [] ∧
      ∃ predicate clause, Predicate.ofCondition sampleMoment = .ok predicate ∧
        conditionClause Users.registry sampleMoment = .ok clause ∧
        predicate.holds sampleCreated = false ∧ clause.truthIn byInstant sampleCreated = .yes :=
  ⟨by decide +kernel, _, _, rfl, rfl, by decide +kernel, by decide +kernel⟩

end RowFilter.Sql
