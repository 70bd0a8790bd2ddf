import RowFilter.Proofs.Json.NumberRange
import RowFilter.Proofs.Number.Nearest
import RowFilter.Proofs.Postgres.Binding
import RowFilter.Proofs.Sql.Databases
import RowFilter.Proofs.Sql.StatementFailures

/-!
# Columns of whole numbers

A predicate compares numbers as doubles, so of two whole numbers it sees what they are rounded to. A
statement and a parameter carry whole numbers as they are. The verdicts agree unless a column and a
value are different numbers with the same double, which takes two numbers of 54 bits or more.
-/

namespace RowFilter

open RowFilter.Filter RowFilter.Number RowFilter.Schema RowFilter.Sql RowFilter.Validation

namespace Comparison

/-- The order of two whole numbers by their doubles: equal where they are rounded to the same. -/
def roundedOrder (n i : Int) : Ordering :=
  if Double.ofInt n = Double.ofInt i then .eq else compare n i

/-- The order of a column and a value by an order of whole numbers. -/
def orderByWhole (order : Int → Ordering) : Value → Option Ordering
  | .integer i => some (order i.toInt)
  | _ => none

theorem isNaN_ofInt {i : Int} (small : i.natAbs < twoTo 64) : (Double.ofInt i).isNaN = false := by
  have finite := (Double.isSmall_ofInt small).isFinite
  rw [Double.isFinite, decide_eq_true_eq] at finite
  rw [Double.isNaN, decide_eq_false_iff_not]
  omega

theorem natAbs_toInt_lt (i : Int64) : i.toInt.natAbs < twoTo 64 := by
  have whole : twoTo 64 = 18446744073709551616 := by decide
  have low := i.le_toInt
  have high := i.toInt_lt
  rw [whole]
  omega

theorem natAbs_lt_of_inRange {n : Int} (range : (Json.Numeral.integer n).InRange) :
    n.natAbs < twoTo 64 := by
  have whole : twoTo 64 = 18446744073709551616 := by decide
  have half : twoTo 63 = 9223372036854775808 := by decide
  rw [Json.Numeral.InRange, whole, half] at range
  rw [whole]
  omega

/-- A whole number in a column and one in a condition compare by their doubles. -/
theorem order?_integer {n : Int} (range : (Json.Numeral.integer n).InRange) (i : Int64) :
    order? (.number (.integer n)) (.integer i) = some (roundedOrder n i.toInt) := by
  rw [order?, Value.finite?, Option.bind_some, Json.Numeral.toDouble, Double.compare?,
    isNaN_ofInt (natAbs_lt_of_inRange range), isNaN_ofInt (natAbs_toInt_lt i), Bool.or_self,
    if_neg Bool.false_ne_true, Double.compare_units_ofInt, roundedOrder]

theorem roundedOrder_eq_iff (n i : Int) :
    roundedOrder n i = compare n i ↔ (Double.ofInt n = Double.ofInt i → n = i) := by
  rw [roundedOrder]
  split
  · rename_i same
    simp only [same, forall_const]
    rw [eq_comm, compare_eq_iff_eq]
  · rename_i different
    exact iff_of_true rfl fun same => absurd same different

/-- Rounding keeps two whole numbers apart if one of them has no more than 53 bits. -/
theorem roundedOrder_of_small {n i : Int}
    (small : n.natAbs < twoTo 53 ∨ i.natAbs < twoTo 53) : roundedOrder n i = compare n i := by
  rw [roundedOrder_eq_iff]
  intro same
  rcases small with left | right
  · exact (Double.ofInt_eq_ofInt_iff_of_small left).mp same
  · exact ((Double.ofInt_eq_ofInt_iff_of_small right).mp same.symm).symm

end Comparison

namespace Sql

/-- The database that compares whole numbers with what the numeral of a literal spells. -/
def byNumeral : Database Literal where
  order json written := match json with
    | .number (.integer n) => (spelledWhole? written.write.toList).map (compare n)
    | _ => none
  fits _ _ := .unknown

theorem writtenOrder_byNumeral {field : Field} (type : field.type = .number) (n : Int) (i : Int64) :
    writtenOrder byNumeral field (some (.number (.integer n))) (.integer i) =
      some (compare n i.toInt) := by
  have written : literal field (.integer i) = .ok (.integer i) :=
    (literal_number_eq_ok_iff type _ _).mpr (.inl ⟨i, rfl, rfl⟩)
  have spelled : spelledWhole? (Literal.integer i).write.toList = some i.toInt :=
    spelledWhole?_toString i.toInt
  rw [writtenOrder_of_literal written]
  show (spelledWhole? (Literal.integer i).write.toList).map (compare n) = _
  rw [spelled, Option.map_some]

end Sql

namespace Comparison

theorem holdsBy_of_integers {condition : Condition} {order : Value → Option Ordering}
    {whole : Int → Ordering}
    (integers : ∀ value ∈ condition.values, ∃ i, value = .integer i)
    (same : ∀ i : Int64, order (.integer i) = some (whole i.toInt)) :
    condition.holdsBy order = condition.holdsBy (orderByWhole whole) := by
  apply Condition.holdsBy_congr
  intro value member
  obtain ⟨i, rfl⟩ := integers value member
  rw [same i, orderByWhole]

/-- A condition that compares a column with whole numbers is decided in three ways. Its predicate
goes by the doubles of the column and of the values. Its clause has the values as they are, and in a
database that reads them so it is true where the condition holds by the order of the whole numbers;
and the values are bound as they are to parameters of 64 bits. The predicate gives this verdict too
if no value is another number than the column with the same double, and so always if the column or
every value is below two to the 53. -/
theorem verdict_on_whole_column {condition : Condition} {predicate : Predicate} {record : Record}
    {n : Int} (comparing : condition.operator.kind.compares = true)
    (integers : ∀ value ∈ condition.values, ∃ i, value = .integer i)
    (compiled : Predicate.ofCondition condition = .ok predicate)
    (column : record.lookup condition.field = some (.number (.integer n)))
    (range : (Json.Numeral.integer n).InRange) :
    predicate.holds record = condition.holdsBy (orderByWhole (roundedOrder n)) ∧
    (∀ {registry : Registry} {field : Field}, registry.find? condition.field = some field →
      field.type = .number → conditionIssues registry condition = [] →
        ∃ clause, conditionClause registry condition = .ok clause ∧
          (clause.truthIn byNumeral record = .yes ↔
            condition.holdsBy (orderByWhole (compare n)) = true)) ∧
    (∀ i : Int64, Postgres.Parameter.bind (.integer i) (.integer .eight) =
      .ok (.integer .eight i.toInt)) ∧
    ((∀ i, .integer i ∈ condition.values → Double.ofInt n = Double.ofInt i.toInt → n = i.toInt) →
      predicate.holds record = condition.holdsBy (orderByWhole (compare n))) ∧
    (n.natAbs < twoTo 53 ∨ (∀ i, .integer i ∈ condition.values → i.toInt.natAbs < twoTo 53) →
      predicate.holds record = condition.holdsBy (orderByWhole (compare n))) := by
  have present : record.value? condition.field = some (.number (.integer n)) :=
    Record.value?_of_lookup column rfl
  have verdict : predicate.holds record = condition.holdsBy (orderByWhole (roundedOrder n)) := by
    rw [Predicate.holds_eq_holdsBy comparing compiled record, present]
    simp only [Option.bind_some]
    exact holdsBy_of_integers integers (order?_integer range)
  have apart : (∀ i, .integer i ∈ condition.values →
      roundedOrder n i.toInt = compare n i.toInt) →
        predicate.holds record = condition.holdsBy (orderByWhole (compare n)) := by
    intro same
    rw [verdict]
    apply Condition.holdsBy_congr
    intro value member
    obtain ⟨i, rfl⟩ := integers value member
    rw [orderByWhole, orderByWhole, same i member]
  refine ⟨verdict, fun {registry field} found type clean => ?_, fun i => ?_, fun distinct => ?_,
    fun small => ?_⟩
  · obtain ⟨clause, hclause, written⟩ := exists_fieldClause found clean compiled
    refine ⟨clause, hclause, ?_⟩
    rw [(comparingClause_of_fieldClause comparing written).truthIn_iff, present]
    exact iff_of_eq (congrArg (· = true)
      (holdsBy_of_integers integers (writtenOrder_byNumeral type n)))
  · have fits : Postgres.IntegerWidth.eight.fits i.toInt = true :=
      (Postgres.IntegerWidth.fits_iff _ _).mpr ⟨i.le_toInt, i.toInt_lt⟩
    rw [Postgres.Parameter.bind_integer_eq_ok_iff rfl]
    exact ⟨i.toInt, rfl, .inl fits, by rw [Postgres.Parameter.clampedTo64_of_fits fits]⟩
  · exact apart fun i member => (roundedOrder_eq_iff n i.toInt).mpr (distinct i member)
  · exact apart fun i member => roundedOrder_of_small (small.imp_right fun below => below i member)

/-- A range of ages. -/
def sampleAges : Condition := ⟨"age", .between, some (.list [.integer 18, .integer 65])⟩

/-- An age at the end of the range is in it, for the predicate as for the numbers. -/
theorem sample_age_in_range : ∃ predicate, Predicate.ofCondition sampleAges = .ok predicate ∧
    predicate.holds [("age", .number (.integer 65))] = true := by
  have integers : ∀ value ∈ sampleAges.values, ∃ i, value = .integer i := by
    intro value member
    rcases List.mem_cons.mp member with rfl | later
    · exact ⟨18, rfl⟩
    · obtain rfl := List.mem_singleton.mp later
      exact ⟨65, rfl⟩
  have range : (Json.Numeral.integer 65).InRange := by
    rw [Json.Numeral.InRange]
    decide
  have column : ([("age", .number (.integer 65))] : Record).lookup "age" =
      some (.number (.integer 65)) := rfl
  obtain ⟨_, _, _, _, small⟩ := verdict_on_whole_column rfl integers rfl column range
  exact ⟨_, rfl, (small (.inl (by decide))).trans rfl⟩

/-- An age that is the first whole number without a double of its own, less one. -/
def sampleRounded : Condition := ⟨"age", .eq, some (.integer 9007199254740992)⟩

/-- The predicate takes the next number for the same one. The statement, where it is compared as it
is written, does not. -/
theorem sample_next_number_equal :
    conditionIssues Users.registry sampleRounded = [] ∧
      ∃ predicate clause, Predicate.ofCondition sampleRounded = .ok predicate ∧
        conditionClause Users.registry sampleRounded = .ok clause ∧
        predicate.holds [("age", .number (.integer 9007199254740993))] = true ∧
        sampleRounded.holdsBy (orderByWhole (compare 9007199254740993)) = false ∧
        clause.truthIn byNumeral [("age", .number (.integer 9007199254740993))] = .no := by
  refine ⟨by decide +kernel, _, _, rfl, rfl, by decide +kernel, by decide +kernel, ?_⟩
  decide +kernel

end Comparison

end RowFilter
