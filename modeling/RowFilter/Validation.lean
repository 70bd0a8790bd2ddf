import RowFilter.Filter.Tree
import RowFilter.Schema.Registry

/-!
# Validation

Whether a filter fits a schema. Every condition is checked, so that a caller sees all problems at
once; within a condition the checks come in a fixed order and the first that fails decides. Only the
values of a list are all reported.
-/

namespace RowFilter.Validation

open RowFilter.Filter RowFilter.Schema

/-- One problem of a condition. -/
structure Issue where
  /-- The field. -/
  field : Option String
  /-- The operator, where it matters. -/
  operator : Option String
  /-- The message. -/
  message : String
  deriving DecidableEq, Repr

/-- A problem with a field. -/
def fieldIssue (condition : Condition) (message : String) : Issue :=
  ⟨some condition.field, none, message⟩

/-- A problem with a field under an operator. -/
def operatorIssue (condition : Condition) (message : String) : Issue :=
  ⟨some condition.field, some condition.operator.name, message⟩

/-- Either the one problem of a condition's shape, or the single values to check. -/
inductive Shape where
  /-- The shape is wrong. -/
  | wrong (message : String)
  /-- The values to check, none if the operator takes no value. -/
  | right (values : List Value)

/-- The single values of a value: the items of a list, or the value itself. -/
def singleValues (value : Value) : List Value := value.list?.getD [value]

/-- The shape of a condition: whether a value is there exactly if the operator takes one, and is a
list where it must be. -/
def shape (condition : Condition) : Shape :=
  let operator := condition.operator
  if !operator.takesValue then
    match condition.value with
    | none => .right []
    | some _ => .wrong ("Operator '" ++ operator.name ++ "' should not have a value")
  else
    match condition.value.filter fun value => !value.isNull with
    | none => .wrong ("Operator '" ++ operator.name ++ "' requires a value")
    | some value =>
      if operator = .between && value.list?.all (·.length ≠ 2) then
        .wrong "Operator 'between' requires exactly two values"
      else if operator = .member && value.list?.isNone then
        .wrong "Operator 'in' requires an array of values"
      else .right (singleValues value)

/-- The problem of a single value that is not of the field's type. -/
def typeIssue (condition : Condition) (type : FieldType) (value : Value) : Issue :=
  operatorIssue condition ("Value '" ++ value.display ++ "' is not a valid " ++ type.name)

/-- The problems of one condition. -/
def conditionIssues (registry : Registry) (condition : Condition) : List Issue :=
  match registry.find? condition.field with
  | none => [fieldIssue condition ("Field '" ++ condition.field ++ "' does not exist")]
  | some field =>
    if !field.filterable then
      [fieldIssue condition ("Field '" ++ condition.field ++ "' is not filterable")]
    else if !field.allows condition.operator then
      [operatorIssue condition
        ("Operator '" ++ condition.operator.name ++ "' is not allowed for field '" ++
          condition.field ++ "'")]
    else match shape condition with
      | .wrong message => [operatorIssue condition message]
      | .right values =>
        (values.filter fun value => !field.type.accepts value).map (typeIssue condition field.type)

/-- The problems of a filter: those of each condition, depth first, the bucket of all before the
bucket of any. -/
def issues (registry : Registry) (filter : Group) : List Issue :=
  filter.fold (conditionIssues registry) fun all any =>
    (bucketNodes all).flatten ++ (bucketNodes any).flatten

end RowFilter.Validation
