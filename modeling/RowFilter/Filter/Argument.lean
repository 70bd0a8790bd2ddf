import RowFilter.Failure
import RowFilter.Filter.Tree

/-!
# What an operator is applied to

A compiler asks a condition for a single value, a list or a pair of bounds, as its operator needs.
Validation rejects most conditions that cannot give it; a list where a single value is needed it
lets through, so the compilers report it.
-/

namespace RowFilter.Filter

open Text

namespace Condition

/-- The failure of a condition whose value does not fit its operator. -/
def malformed (condition : Condition) (message : String) : Failure :=
  .malformedCondition condition.field condition.operator.name message

/-- The start of the messages about a condition's operator. -/
def operatorPhrase (condition : Condition) : String :=
  "operator '" ++ condition.operator.name ++ "'"

/-- The value, which must be there and not null. -/
def required (condition : Condition) : Except Failure Value :=
  match condition.value.filter fun value => !value.isNull with
  | some value => .ok value
  | none => .error (condition.malformed (condition.operatorPhrase ++ " requires a value"))

/-- The value, which must be a list. -/
def listArgument (condition : Condition) : Except Failure (List Value) := do
  let value ← condition.required
  match value.list? with
  | some items => return items
  | none => throw (condition.malformed (condition.operatorPhrase ++ " requires an array value"))

/-- The value, which must be neither a list nor a document. -/
def scalarArgument (condition : Condition) : Except Failure Value := do
  let value ← condition.required
  match value with
  | .list _ | .document _ =>
    throw (condition.malformed
      (condition.operatorPhrase ++ " requires a scalar value, got " ++ value.kind))
  | scalar => return scalar

/-- The value, which must be a list of two. -/
def boundsArgument (condition : Condition) : Except Failure (Value × Value) := do
  match ← condition.listArgument with
  | [low, high] => return (low, high)
  | _ => throw (condition.malformed "operator 'between' requires exactly two values")

end Condition

/-- The results in a row, or the first failure. -/
def collect {ε α : Type} : List (Except ε α) → Except ε (List α)
  | [] => .ok []
  | result :: rest => do
    let value ← result
    let values ← collect rest
    return value :: values

end RowFilter.Filter
