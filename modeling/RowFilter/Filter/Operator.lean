/-!
# Operators

The thirteen operators that a condition may use, in a fixed order, and their names in documents.
-/

namespace RowFilter.Filter

/-- How a condition compares a field with its value. -/
inductive Operator where
  /-- Equal. -/
  | eq
  /-- Not equal. -/
  | neq
  /-- Greater. -/
  | gt
  /-- Less. -/
  | lt
  /-- Greater or equal. -/
  | gte
  /-- Less or equal. -/
  | lte
  /-- One of a list. -/
  | member
  /-- Between two values, both included. -/
  | between
  /-- Holds a text, in any case. -/
  | contains
  /-- Starts with a text, in any case. -/
  | startsWith
  /-- Ends with a text, in any case. -/
  | endsWith
  /-- Absent or null. -/
  | isNull
  /-- Present and not null. -/
  | isNotNull
  deriving DecidableEq, Repr

namespace Operator

/-- Every operator, in order. -/
def all : List Operator :=
  [.eq, .neq, .gt, .lt, .gte, .lte, .member, .between, .contains, .startsWith, .endsWith,
   .isNull, .isNotNull]

/-- The name of an operator in documents. -/
def name : Operator → String
  | .eq => "eq"
  | .neq => "neq"
  | .gt => "gt"
  | .lt => "lt"
  | .gte => "gte"
  | .lte => "lte"
  | .member => "in"
  | .between => "between"
  | .contains => "contains"
  | .startsWith => "starts_with"
  | .endsWith => "ends_with"
  | .isNull => "is_null"
  | .isNotNull => "is_not_null"

/-- The operator of a name. -/
def ofName? (name : String) : Option Operator := all.find? fun operator => operator.name == name

/-- The names of all operators, in order. -/
def names : List String := all.map name

/-- Whether conditions with this operator carry a value. -/
def takesValue : Operator → Bool
  | .isNull => false
  | .isNotNull => false
  | _ => true

/-- Whether the value is a list. -/
def takesList : Operator → Bool
  | .member => true
  | .between => true
  | _ => false

/-- Whether the operator looks for a part of a text. -/
def isPattern : Operator → Bool
  | .contains => true
  | .startsWith => true
  | .endsWith => true
  | _ => false

/-- The place of an operator among all. -/
def index (operator : Operator) : Nat := all.idxOf operator

end Operator

/-- The message for a name that is no operator's. -/
def unknownOperatorMessage (name : String) : String := "unknown operator `" ++ name ++ "`"

end RowFilter.Filter
