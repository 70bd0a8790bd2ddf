import RowFilter.Proofs.Postgres.Binding
import RowFilter.Proofs.Predicate.Leaves
import RowFilter.Proofs.Schema.Registry
import RowFilter.Proofs.Validation.Arguments
import RowFilter.Users

/-!
# Binding the values of a users filter

The schema of users knows that an age is a number; the table stores ages as whole numbers of 32
bits. So validation lets numbers pass that no parameter for an age can take, and these are refused
when they are bound, before a statement is executed. Nothing else is ever refused: every identifier,
text, label, truth value and date that validation lets pass fits the parameter that stands for it.
-/

namespace RowFilter

open RowFilter.Filter RowFilter.Postgres RowFilter.Schema

namespace Users

/-- The columns of the table with their types. -/
def columns : List (String × ColumnType) :=
  [("id", .uuid), ("email", .text .text), ("name", .text .text), ("age", .integer .four),
   ("role", .enumeration roleType), ("isActive", .boolean), ("createdAt", .timestamp true),
   ("password", .text .text)]

/-- The type of a column of the table. -/
def columnType (name : String) : ColumnType := (columns.lookup name).getD (.other name)

/-- Every field but the age, which is a number, accepts only what its column takes. -/
theorem suits_of_find? {name : String} {field : Field} (found : registry.find? name = some field) :
    Parameter.Suits field.type (columnType name) ∨ name = "age" ∧ field.type = .number := by
  have same := Registry.name_eq_of_find? found
  have member : field ∈ fields := Registry.mem_fields_of_find? found
  subst same
  simp only [fields, List.mem_cons, List.not_mem_nil, or_false] at member
  rcases member with rfl | rfl | rfl | rfl | rfl | rfl | rfl | rfl
  · exact .inl .uuid
  · exact .inl (.text .text)
  · exact .inl (.text .text)
  · exact .inr ⟨rfl, rfl⟩
  · exact .inl (.enumeration roleType)
  · exact .inl .boolean
  · exact .inl (.date true)
  · exact .inl (.text .text)

end Users

/-! ### The values of a predicate -/

namespace Predicate

/-- The typed operands of a predicate's clause are those of its tests. -/
theorem typedOperands_clause (type : String → ColumnType) (predicate : Predicate) :
    predicate.clause.typedOperands type =
      predicate.leaves.flatMap fun test => test.clause.typedOperands type := by
  induction predicate using induction with
  | always => rfl
  | all parts ih =>
      rw [clause, clauses_eq_map, Sql.Clause.typedOperands, Sql.Clause.tests_all, List.flatMap_map,
        List.flatMap_assoc, leaves_all, List.flatMap_assoc]
      exact List.flatMap_congr ih
  | any parts ih =>
      rw [clause, clauses_eq_map, Sql.Clause.typedOperands, Sql.Clause.tests_any, List.flatMap_map,
        List.flatMap_assoc, leaves_any, List.flatMap_assoc]
      exact List.flatMap_congr ih
  | _ => rw [leaves_of_field? rfl, List.flatMap_singleton]

/-- The clause of a comparison has the compared value as its only operand, unless it is a test for
null. -/
theorem typedOperands_comparisonClause (type : String → ColumnType) (field : String)
    (relation : Relation) (value : Value) :
    (comparisonClause field relation value).typedOperands type = [(value, type field)] ∨
      value.isNull = true ∧ (comparisonClause field relation value).typedOperands type = [] := by
  unfold comparisonClause
  cases null : value.isNull with
  | false => cases relation <;> exact .inl rfl
  | true =>
      cases relation with
      | equal => exact .inr ⟨rfl, rfl⟩
      | notEqual => exact .inr ⟨rfl, rfl⟩
      | _ => exact .inl rfl

theorem typedOperands_memberClause (type : String → ColumnType) (field : String)
    (values : List Value) :
    (member field values).clause.typedOperands type =
      values.map fun value => (value, type field) := by
  cases values with
  | nil => rfl
  | cons value rest => exact List.append_nil _

/-- A parameter of a test stands for a value that the field is compared with, and has the type of
its column; or it is a pattern, and a text. -/
theorem typed_of_mem_test {type : String → ColumnType} {test : Predicate} {field : String}
    (tests : test.field? = some field) {pair : Value × ColumnType}
    (inTest : pair ∈ test.clause.typedOperands type) :
    (pair.1 ∈ test.comparedValues ∧ pair.2 = type field) ∨
      ∃ text, pair = (.text text, .text .text) := by
  cases test with
  | compare other relation value =>
      obtain rfl := Option.some.inj tests
      rw [clause] at inTest
      rcases typedOperands_comparisonClause type other relation value with single | ⟨_, none⟩
      · rw [single, List.mem_singleton] at inTest
        subst inTest
        exact .inl ⟨List.mem_singleton_self value, rfl⟩
      · rw [none] at inTest
        cases inTest
  | member other values =>
      obtain rfl := Option.some.inj tests
      rw [typedOperands_memberClause, List.mem_map] at inTest
      obtain ⟨value, hvalue, rfl⟩ := inTest
      exact .inl ⟨hvalue, rfl⟩
  | search other occurrence text => exact .inr ⟨_, List.mem_singleton.mp inTest⟩
  | isNull other => cases inTest
  | isNotNull other => cases inTest
  | always => cases tests
  | all parts => cases tests
  | any parts => cases tests

/-- Every value that a field is compared with, unless it is null, is a parameter of the test, with
the type of the field's column. -/
theorem mem_test_of_compared (type : String → ColumnType) {test : Predicate} {field : String}
    (tests : test.field? = some field) {value : Value} (compared : value ∈ test.comparedValues)
    (given : value.isNull = false) : (value, type field) ∈ test.clause.typedOperands type := by
  cases test with
  | compare other relation only =>
      obtain rfl := Option.some.inj tests
      obtain rfl := List.mem_singleton.mp compared
      rw [clause]
      rcases typedOperands_comparisonClause type other relation value with single | ⟨null, _⟩
      · rw [single]
        exact List.mem_singleton_self _
      · rw [given] at null
        cases null
  | member other values =>
      obtain rfl := Option.some.inj tests
      rw [typedOperands_memberClause]
      exact List.mem_map.mpr ⟨value, compared, rfl⟩
  | _ => cases compared

end Predicate

/-! ### Filters of users -/

namespace Users

variable {filter : Group} {predicate : Predicate}

/-- The field of a test is one of the schema's, if the filter has no problems, and accepts the
values that the test compares it with. -/
theorem exists_field_of_mem_leaves (clean : Validation.issues registry filter = [])
    (compiled : Predicate.ofFilter filter = .ok predicate) :
    ∀ test ∈ predicate.leaves, ∃ name field, test.field? = some name ∧
      registry.find? name = some field ∧
        ∀ value ∈ test.comparedValues, field.type.accepts value = true := by
  rw [Validation.issues_eq_flatMap, List.flatMap_eq_nil_iff] at clean
  intro test htest
  obtain ⟨condition, inFilter, tested, htested, inTested⟩ :=
    Predicate.mem_leaves_ofFilter compiled test htest
  obtain ⟨field, found, _, accepted⟩ :=
    (Validation.conditionIssues_eq_nil_iff registry condition).mp (clean condition inFilter)
  have compared := Predicate.comparedValues_subset_values htested test inTested
  exact ⟨condition.field, field, Predicate.field?_of_mem_leaves_ofCondition htested test inTested,
    found, fun value hvalue => accepted value (compared hvalue)⟩

/-- Whether a value stands for an age in a predicate: a test of the age compares it. -/
def IsAge (predicate : Predicate) (value : Value) : Prop :=
  ∃ test ∈ predicate.leaves, test.field? = some "age" ∧ value ∈ test.comparedValues

/-- Every parameter of a filter without problems is bound, or it is a number that stands for an
age. -/
theorem bound_or_age (clean : Validation.issues registry filter = [])
    (compiled : Predicate.ofFilter filter = .ok predicate) :
    ∀ pair ∈ predicate.clause.typedOperands columnType,
      (∃ parameter, Parameter.bind pair.1 pair.2 = .ok parameter) ∨
        IsAge predicate pair.1 ∧ pair.2 = .integer .four ∧ pair.1.isNull = false := by
  rw [Predicate.typedOperands_clause, List.forall_mem_flatMap]
  rintro test htest ⟨value, type⟩ hpair
  obtain ⟨name, field, tests, found, accepted⟩ :=
    exists_field_of_mem_leaves clean compiled test htest
  rcases Predicate.typed_of_mem_test tests hpair with ⟨compared, rfl⟩ | ⟨text, same⟩
  · have fits := accepted value compared
    rcases suits_of_find? found with suits | ⟨rfl, _⟩
    · exact .inl (Parameter.exists_bind_of_suits suits fits)
    · exact .inr ⟨⟨test, htest, tests, compared⟩, rfl,
        Value.isNull_of_isScalar (Validation.isScalar_of_accepts fits)⟩
  · obtain ⟨rfl, rfl⟩ := Prod.mk.inj same
    exact .inl ⟨_, rfl⟩

/-- Every number that stands for an age is a parameter with the type of the age. -/
theorem mem_typedOperands_of_isAge (clean : Validation.issues registry filter = [])
    (compiled : Predicate.ofFilter filter = .ok predicate) {value : Value}
    (age : IsAge predicate value) :
    (value, .integer .four) ∈ predicate.clause.typedOperands columnType ∧
      value.isNull = false := by
  obtain ⟨test, htest, tests, compared⟩ := age
  obtain ⟨_, _, _, _, accepted⟩ := exists_field_of_mem_leaves clean compiled test htest
  have given :=
    Value.isNull_of_isScalar (Validation.isScalar_of_accepts (accepted value compared))
  rw [Predicate.typedOperands_clause]
  exact ⟨List.mem_flatMap.mpr
    ⟨test, htest, Predicate.mem_test_of_compared columnType tests compared given⟩, given⟩

/-- The parameters of a filter without problems are bound exactly if every age that its predicate
compares with is a whole number of 32 bits. Otherwise an age that is none is refused, by its value
and its type, and nothing else is ever refused. In particular a filter that asks for such ages only
is bound. -/
theorem bindAll_ok_iff_ages_whole (clean : Validation.issues registry filter = [])
    (compiled : Predicate.ofFilter filter = .ok predicate) (projection : List String) :
    ((∃ parameters, Parameter.bindAll (select entity predicate projection).2
        (predicate.clause.parameterTypes columnType) = .ok parameters) ↔
      ∀ value, IsAge predicate value → value.IsInt4) ∧
    (∀ problem, Parameter.bindAll (select entity predicate projection).2
        (predicate.clause.parameterTypes columnType) = .error problem →
      ∃ value, IsAge predicate value ∧ ¬ value.IsInt4 ∧
        problem = Parameter.mismatch value (.integer .four)) ∧
    ((∀ condition ∈ filter.conditions, condition.field = "age" →
        ∀ value ∈ condition.values, value.IsInt4) →
      ∃ parameters, Parameter.bindAll (select entity predicate projection).2
        (predicate.clause.parameterTypes columnType) = .ok parameters) := by
  have each := bound_or_age clean compiled
  have bound : (∃ parameters, Parameter.bindAll (select entity predicate projection).2
      (predicate.clause.parameterTypes columnType) = .ok parameters) ↔
        ∀ value, IsAge predicate value → value.IsInt4 := by
    rw [select_values, Parameter.bindAll_parameterTypes_ok_iff]
    constructor
    · intro all value age
      obtain ⟨member, given⟩ := mem_typedOperands_of_isAge clean compiled age
      exact (Parameter.exists_bind_integer_iff given).mp (all _ member)
    · rintro whole ⟨value, type⟩ member
      rcases each _ member with done | ⟨age, rfl, given⟩
      · exact done
      · exact (Parameter.exists_bind_integer_iff given).mpr (whole value age)
  refine ⟨bound, fun problem failed => ?_, fun whole => bound.mpr fun value age => ?_⟩
  · rw [select_values] at failed
    obtain ⟨⟨value, type⟩, member, refused⟩ := Parameter.exists_bind_error_of_bindAll failed
    rcases each _ member with ⟨parameter, done⟩ | ⟨age, rfl, given⟩
    · rw [refused] at done
      cases done
    · refine ⟨value, age, fun whole => ?_, Parameter.eq_mismatch_of_bind_integer refused⟩
      obtain ⟨parameter, done⟩ := (Parameter.exists_bind_integer_iff given).mpr whole
      rw [refused] at done
      cases done
  · obtain ⟨test, htest, tests, compared⟩ := age
    obtain ⟨condition, inFilter, tested, htested, inTested⟩ :=
      Predicate.mem_leaves_ofFilter compiled test htest
    have named := Predicate.field?_of_mem_leaves_ofCondition htested test inTested
    exact whole condition inFilter (Option.some.inj (named.symm.trans tests)) value
      (Predicate.comparedValues_subset_values htested test inTested compared)

/-- Users from 18 to 65, the latter given as a double, since the start of 2024, by their email or by
an identifier. -/
def sampleAges : Group where
  all := some [
    .condition ⟨"age", .between, some (.list [.integer 18, .double ⟨0x4050400000000000⟩])⟩,
    .condition ⟨"createdAt", .gte, some (.text "2024-01-01")⟩]
  any := some [.condition ⟨"email", .contains, some (.text "example")⟩,
    .condition ⟨"id", .member, some (.list [.text "550e8400-e29b-41d4-a716-446655440001"])⟩]

/-- All parameters of the sample are bound. -/
theorem sample_ages_bound : ∃ predicate, Predicate.ofFilter sampleAges = .ok predicate ∧
    ∃ parameters, Parameter.bindAll (select entity predicate publicColumns).2
      (predicate.clause.parameterTypes columnType) = .ok parameters := by
  have clean : Validation.issues registry sampleAges = [] := by decide +kernel
  refine ⟨_, rfl, (bindAll_ok_iff_ages_whole clean rfl publicColumns).2.2 ?_⟩
  have conditions : sampleAges.conditions =
      [⟨"age", .between, some (.list [.integer 18, .double ⟨0x4050400000000000⟩])⟩,
       ⟨"createdAt", .gte, some (.text "2024-01-01")⟩,
       ⟨"email", .contains, some (.text "example")⟩,
       ⟨"id", .member, some (.list [.text "550e8400-e29b-41d4-a716-446655440001"])⟩] := rfl
  have low : Value.IsInt4 (.integer 18) := ⟨18, rfl, by decide, by decide⟩
  have high : Value.IsInt4 (.double ⟨0x4050400000000000⟩) :=
    ⟨65, ⟨by decide +kernel, by decide +kernel⟩, by decide, by decide⟩
  simp [conditions, Condition.values, Validation.singleValues, Value.list?, low, high]

/-- Thirty and a half. -/
def half : Number.Double := ⟨0x403E800000000000⟩

/-- Users older than thirty and a half. -/
def sampleHalf : Group where
  all := some [.condition ⟨"age", .gt, some (.double half)⟩]

/-- A fraction is a number, so validation lets it pass and the statement that carries its values can
be made; but it is refused as a parameter. -/
theorem sample_half_age_refused :
    Validation.issues registry sampleHalf = [] ∧
      Sql.statement registry sampleHalf "users" =
        .ok "SELECT * FROM \"users\" WHERE (\"age\" > 30.5)" ∧
      ∃ predicate, Predicate.ofFilter sampleHalf = .ok predicate ∧
        Parameter.bindAll (select entity predicate publicColumns).2
          (predicate.clause.parameterTypes columnType) =
          .error (.conversion "cannot bind number value '30.5' as int4") := by
  refine ⟨by decide +kernel, by decide +kernel, .compare "age" .greater (.double half), rfl, ?_⟩
  have typed : (Predicate.compare "age" .greater (.double half)).clause.typedOperands columnType =
      [(.double half, .integer .four)] := rfl
  have unfit : (Parameter.whole? (.double half)).filter IntegerWidth.four.fits = none := by
    decide +kernel
  have shown : Parameter.mismatch (.double half) (.integer .four) =
      .conversion "cannot bind number value '30.5' as int4" := by decide +kernel
  rw [select_values, Parameter.bindAll_parameterTypes, typed, List.map_singleton, Parameter.bind,
    Parameter.ofValue?, unfit, ← shown]
  rfl

end Users

end RowFilter
