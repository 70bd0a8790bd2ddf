import Mathlib.Data.List.Basic
import RowFilter.Postgres.Parameter
import RowFilter.Postgres.Select
import RowFilter.Proofs.Filter.FirstFailure
import RowFilter.Proofs.Number.Doubles
import RowFilter.Proofs.Sql.Clauses
import RowFilter.Proofs.Uuid
import RowFilter.Schema.Field

/-!
# Binding the values of a predicate

A server names a type for every parameter of a statement: that of the column with which the
parameter is compared, and text for a pattern. The values of a predicate are bound to these types
one by one, and the first that does not fit is the problem of the whole. What a field accepts can
always be bound to a column of a suitable type. A number fits a column of whole numbers only if it
is whole and within the column's width.
-/

namespace RowFilter

open RowFilter.Filter RowFilter.Number RowFilter.Postgres RowFilter.Schema

/-! ### The types of parameters -/

namespace Sql.Clause

variable {α : Type}

/-- The operands of a test of a single column, each with the type of the parameter that stands for
it. -/
def typedTest (type : String → ColumnType) : Clause α → List (α × ColumnType)
  | .compare column _ operand => [(operand, type column)]
  | .among column operands => operands.map fun operand => (operand, type column)
  | .between column low high => [(low, type column), (high, type column)]
  | .like _ pattern => [(pattern, .text .text)]
  | _ => []

/-- The operands of a clause, from left to right, each with the type of the parameter that stands
for it. -/
def typedOperands (type : String → ColumnType) (clause : Clause α) : List (α × ColumnType) :=
  clause.tests.flatMap (typedTest type)

/-- The types that a server names for the parameters of a clause, given those of its columns. -/
def parameterTypes (type : String → ColumnType) (clause : Clause α) : List ColumnType :=
  (clause.typedOperands type).map Prod.snd

private theorem map_fst_typedTest (type : String → ColumnType) (clause : Clause α) :
    ∀ test ∈ clause.tests, (test.typedTest type).map Prod.fst = test.operands := by
  induction clause using induction with
  | all parts ih =>
      rw [tests_all, List.forall_mem_flatMap]
      exact ih
  | any parts ih =>
      rw [tests_any, List.forall_mem_flatMap]
      exact ih
  | both left right hleft hright => exact List.forall_mem_append.mpr ⟨hleft, hright⟩
  | always => exact fun test htest => by cases htest
  | never => exact fun test htest => by cases htest
  | among column operands =>
      refine List.forall_mem_singleton.mpr ?_
      rw [typedTest, List.map_map]
      exact List.map_id operands
  | _ => exact List.forall_mem_singleton.mpr rfl

/-- Without the types, the typed operands of a clause are its operands. -/
theorem map_fst_typedOperands (type : String → ColumnType) (clause : Clause α) :
    (clause.typedOperands type).map Prod.fst = clause.operands := by
  rw [typedOperands, List.map_flatMap, operands_eq_flatMap_tests]
  exact List.flatMap_congr (map_fst_typedTest type clause)

end Sql.Clause

namespace Postgres

/-- The parameters of a predicate's statement are the operands of its clause. -/
theorem select_values (entity : String) (predicate : Predicate) (projection : List String) :
    (select entity predicate projection).2 = predicate.clause.operands := by
  unfold select
  cases predicate <;> rfl

namespace Parameter

theorem bindEach_eq_collect (pairs : List (Value × ColumnType)) :
    bindEach pairs = collect (pairs.map fun pair => bind pair.1 pair.2) := by
  induction pairs with
  | nil => rfl
  | cons pair rest ih => rw [bindEach, ih, List.map_cons, collect]

/-- The operands of a clause are bound one by one to the types that a server names for them. -/
theorem bindAll_parameterTypes (type : String → ColumnType) (clause : Sql.Clause Value) :
    bindAll clause.operands (clause.parameterTypes type) =
      collect ((clause.typedOperands type).map fun pair => bind pair.1 pair.2) := by
  rw [bindAll, Sql.Clause.parameterTypes, ← clause.map_fst_typedOperands type, List.length_map,
    List.length_map, if_pos rfl, List.zip_map', bindEach_eq_collect, List.map_map]
  rfl

/-- Values are bound together exactly if each of them is bound alone. -/
theorem bindAll_parameterTypes_ok_iff (type : String → ColumnType) (clause : Sql.Clause Value) :
    (∃ parameters, bindAll clause.operands (clause.parameterTypes type) = .ok parameters) ↔
      ∀ pair ∈ clause.typedOperands type, ∃ parameter, bind pair.1 pair.2 = .ok parameter := by
  rw [bindAll_parameterTypes, ← failure?_eq_none_iff, failure?_collect,
    List.findSome?_eq_none_iff, List.forall_mem_map]
  exact forall₂_congr fun pair _ => failure?_eq_none_iff _

/-- Values that are not bound together have a value that is not bound alone, for the same
reason. -/
theorem exists_bind_error_of_bindAll {type : String → ColumnType} {clause : Sql.Clause Value}
    {problem : Problem}
    (failed : bindAll clause.operands (clause.parameterTypes type) = .error problem) :
    ∃ pair ∈ clause.typedOperands type, bind pair.1 pair.2 = .error problem := by
  rw [bindAll_parameterTypes, ← failure?_eq_some_iff, failure?_collect] at failed
  obtain ⟨_, member, found⟩ := List.exists_of_findSome?_eq_some failed
  obtain ⟨pair, hpair, rfl⟩ := List.mem_map.mp member
  exact ⟨pair, hpair, (failure?_eq_some_iff _ _).mp found⟩

/-! ### Values and types that fit -/

theorem bind_eq_of_ofValue? {value : Value} (given : value.isNull = false) {type : ColumnType}
    {parameter : Parameter} (fits : ofValue? value type = some parameter) :
    bind value type = .ok parameter := by
  rw [bind, given, if_neg Bool.false_ne_true, fits]

/-- Whether every value that a field of the type accepts can be bound to a column of the type. -/
inductive Suits : FieldType → ColumnType → Prop
  | text (kind : TextKind) : Suits .text (.text kind)
  | boolean : Suits .boolean .boolean
  | date (zoned : Bool) : Suits .date (.timestamp zoned)
  | enumeration (name : String) : Suits .enumeration (.enumeration name)
  | uuid : Suits .uuid .uuid

/-- What a field accepts is bound to a column of a suitable type. -/
theorem exists_bind_of_suits {field : FieldType} {column : ColumnType} (suits : Suits field column)
    {value : Value} (accepted : field.accepts value = true) :
    ∃ parameter, bind value column = .ok parameter := by
  have given : value.isNull = false := by
    cases suits <;> cases value <;> simp_all [FieldType.accepts, Value.text?, Value.isNull]
  suffices fits : (ofValue? value column).isSome = true by
    obtain ⟨parameter, found⟩ := Option.isSome_iff_exists.mp fits
    exact ⟨parameter, bind_eq_of_ofValue? given found⟩
  cases suits with
  | text kind => rfl
  | boolean =>
      cases value with
      | boolean b => rfl
      | _ => simp [FieldType.accepts] at accepted
  | date zoned =>
      rw [ofValue?, Option.isSome_map]
      exact accepted
  | enumeration name =>
      rw [ofValue?, Option.isSome_map]
      exact accepted
  | uuid =>
      rw [ofValue?, Option.isSome_map]
      cases spelled : value.text? with
      | none => simp [FieldType.accepts, spelled] at accepted
      | some text =>
          rw [FieldType.accepts, spelled] at accepted
          exact Uuid.isSome_octets?_of_isUuid accepted

end Parameter

end Postgres

/-! ### Whole numbers -/

/-- Whether a value is a whole number, written as one or as a double. -/
def Filter.Value.IsWhole : Value → Int → Prop
  | .integer m, n => m.toInt = n
  | .double x, n => x.isFinite = true ∧ x.units = n * (twoTo binary64.scale : Nat)
  | _, _ => False

/-- Whether a value is a whole number of 32 bits with sign. -/
def Filter.Value.IsInt4 (value : Value) : Prop :=
  ∃ n, value.IsWhole n ∧ -2147483648 ≤ n ∧ n ≤ 2147483647

namespace Postgres

theorem IntegerWidth.fits_iff (width : IntegerWidth) (n : Int) :
    width.fits n = true ↔
      -(twoTo (8 * width.octets - 1) : Int) ≤ n ∧ n < twoTo (8 * width.octets - 1) := by
  rw [fits, Bool.and_eq_true, decide_eq_true_eq, decide_eq_true_eq]

theorem IntegerWidth.fits_four_iff (n : Int) :
    IntegerWidth.four.fits n = true ↔ -2147483648 ≤ n ∧ n ≤ 2147483647 := by
  have bound : twoTo (8 * IntegerWidth.four.octets - 1) = 2147483648 := rfl
  rw [fits_iff, bound]
  omega

namespace Parameter

private theorem fits_eight_iff (n : Int) :
    IntegerWidth.eight.fits n = true ↔ -9223372036854775808 ≤ n ∧ n < 9223372036854775808 := by
  have bound : twoTo (8 * IntegerWidth.eight.octets - 1) = 9223372036854775808 := rfl
  rw [IntegerWidth.fits_iff, bound]
  rfl

private theorem clampedTo64_eq (n : Int) :
    clampedTo64 n = max (-9223372036854775808) (min n 9223372036854775807) := rfl

/-- What fits a width fits 64 bits. -/
theorem fits_eight_of_fits {width : IntegerWidth} {n : Int} (fits : width.fits n = true) :
    IntegerWidth.eight.fits n = true := by
  have two : twoTo (8 * IntegerWidth.two.octets - 1) = 32768 := rfl
  rw [fits_eight_iff]
  cases width with
  | two =>
      rw [IntegerWidth.fits_iff, two] at fits
      omega
  | four =>
      rw [IntegerWidth.fits_four_iff] at fits
      omega
  | eight => exact (fits_eight_iff n).mp fits

/-- A number of 64 bits is not cut off. -/
theorem clampedTo64_of_fits {width : IntegerWidth} {n : Int} (fits : width.fits n = true) :
    clampedTo64 n = n := by
  have range := (fits_eight_iff n).mp (fits_eight_of_fits fits)
  rw [clampedTo64_eq]
  omega

/-- A number that is cut off at 64 bits fits these, and no width that it did not fit before. -/
theorem fits_clampedTo64_iff (width : IntegerWidth) (n : Int) :
    width.fits (clampedTo64 n) = true ↔ width.fits n = true ∨ width = .eight := by
  constructor
  · intro fits
    by_cases range : IntegerWidth.eight.fits n = true
    · rw [clampedTo64_of_fits range] at fits
      exact .inl fits
    · -- The number was cut off, to one of the two ends, and these fit no other width.
      right
      have ends : clampedTo64 n = -9223372036854775808 ∨ clampedTo64 n = 9223372036854775807 := by
        rw [fits_eight_iff] at range
        rw [clampedTo64_eq]
        omega
      rcases ends with low | high
      · rw [low] at fits
        cases width <;> first | rfl | cases fits
      · rw [high] at fits
        cases width <;> first | rfl | cases fits
  · rintro (fits | rfl)
    · rwa [clampedTo64_of_fits fits]
    · rw [fits_eight_iff, clampedTo64_eq]
      omega

/-- The whole number that a value gives is the one that it is, cut off at 64 bits. -/
theorem whole?_eq_some_iff (value : Value) (n : Int) :
    whole? value = some n ↔ ∃ m, value.IsWhole m ∧ clampedTo64 m = n := by
  cases value with
  | integer m =>
      have fits : IntegerWidth.eight.fits m.toInt = true :=
        (fits_eight_iff _).mpr ⟨m.le_toInt, m.toInt_lt⟩
      simp only [whole?, Option.some.injEq, Value.IsWhole, exists_eq_left',
        clampedTo64_of_fits fits]
  | double x =>
      simp only [whole?, Option.map_eq_some_iff, Value.IsWhole, Double.whole?_eq_some_iff]
  | _ => simp [whole?, Value.IsWhole]

variable {value : Value} {width : IntegerWidth}

/-- A value that is not null is bound to a column of whole numbers exactly if it is a whole number
that fits the column, or any whole number if the column has 64 bits. What is bound is the number,
cut off at 64 bits. -/
theorem bind_integer_eq_ok_iff (given : value.isNull = false) (parameter : Parameter) :
    bind value (.integer width) = .ok parameter ↔
      ∃ n, value.IsWhole n ∧ (width.fits n = true ∨ width = .eight) ∧
        parameter = .integer width (clampedTo64 n) := by
  have found : bind value (.integer width) = .ok parameter ↔
      ∃ n, whole? value = some n ∧ width.fits n = true ∧ parameter = .integer width n := by
    rw [bind, given, if_neg Bool.false_ne_true, ofValue?]
    cases kept : (whole? value).filter width.fits with
    | none =>
        rw [Option.filter_eq_none_iff] at kept
        simpa using fun n whole fits => absurd fits (kept n whole)
    | some n =>
        obtain ⟨whole, fits⟩ := Option.filter_eq_some_iff.mp kept
        simp [whole, fits, eq_comm (a := parameter)]
  rw [found]
  constructor
  · rintro ⟨n, whole, fits, rfl⟩
    obtain ⟨m, isWhole, rfl⟩ := (whole?_eq_some_iff value n).mp whole
    exact ⟨m, isWhole, (fits_clampedTo64_iff width m).mp fits, rfl⟩
  · rintro ⟨m, isWhole, fits, rfl⟩
    exact ⟨_, (whole?_eq_some_iff value _).mpr ⟨m, isWhole, rfl⟩,
      (fits_clampedTo64_iff width m).mpr fits, rfl⟩

/-- What is not bound to a column of whole numbers is refused with the value and the type. -/
theorem eq_mismatch_of_bind_integer {problem : Problem}
    (refused : bind value (.integer width) = .error problem) :
    problem = mismatch value (.integer width) := by
  rw [bind] at refused
  split at refused
  · cases refused
  · split at refused
    · cases refused
    · exact (Except.error.inj refused).symm

/-- A value that is not null is bound to a column of 32 bits exactly if it is a whole number of 32
bits. -/
theorem exists_bind_integer_iff (given : value.isNull = false) :
    (∃ parameter, bind value (.integer .four) = .ok parameter) ↔ value.IsInt4 := by
  simp only [bind_integer_eq_ok_iff given, reduceCtorEq, or_false, IntegerWidth.fits_four_iff]
  constructor
  · rintro ⟨_, n, whole, range, _⟩
    exact ⟨n, whole, range⟩
  · rintro ⟨n, whole, range⟩
    exact ⟨_, n, whole, range, rfl⟩

end Parameter

end Postgres

end RowFilter
