import RowFilter.Filter.Argument
import RowFilter.Sql.Clause
import RowFilter.Sql.Literal

/-!
# Statements that carry their values

A filter as the condition of a statement, with every value written into it as a literal. A group
that constrains nothing has no clause; it is left out of a bucket of all, and as one of any it makes
the whole bucket constrain nothing.
-/

namespace RowFilter.Sql

open RowFilter.Filter RowFilter.Schema

/-- The clause of a comparison. -/
def compareClause (field : Field) (condition : Condition) (relation : Relation) :
    Except Failure (Clause Literal) := do
  let value ← condition.scalarArgument
  let operand ← literal field value
  return .compare condition.field relation operand

/-- The clause of a search for a text. -/
def searchClause (condition : Condition) (occurrence : Occurrence) :
    Except Failure (Clause Literal) := do
  let value ← condition.scalarArgument
  return .like condition.field (.text (pattern occurrence value.display))

/-- The clause of a condition on a field. -/
def fieldClause (field : Field) (condition : Condition) : Except Failure (Clause Literal) :=
  match condition.operator with
  | .eq => compareClause field condition .equal
  | .neq => compareClause field condition .notEqual
  | .gt => compareClause field condition .greater
  | .lt => compareClause field condition .less
  | .gte => compareClause field condition .greaterOrEqual
  | .lte => compareClause field condition .lessOrEqual
  | .member => do
    let values ← condition.listArgument
    let operands ← collect (values.map (literal field))
    return if operands.isEmpty then .never else .among condition.field operands
  | .between => do
    let (low, high) ← condition.boundsArgument
    let low ← literal field low
    let high ← literal field high
    return .between condition.field low high
  | .contains => searchClause condition .anywhere
  | .startsWith => searchClause condition .atStart
  | .endsWith => searchClause condition .atEnd
  | .isNull => .ok (.isNull condition.field)
  | .isNotNull => .ok (.isNotNull condition.field)

/-- The clause of a condition. -/
def conditionClause (registry : Registry) (condition : Condition) :
    Except Failure (Clause Literal) :=
  match registry.find? condition.field with
  | none => .error (.unknownField condition.field)
  | some field => fieldClause field condition

/-- The clause of parts, if there are any. -/
def bucketClause {α : Type} (wrap : List (Clause α) → Clause α) (parts : List (Clause α)) :
    Option (Clause α) :=
  if parts.isEmpty then none else some (wrap parts)

/-- The clause of a group, given those of its nodes. -/
def groupClause {α : Type} (all any : List (Option (Clause α))) : Option (Clause α) :=
  let allClause := bucketClause .all (all.filterMap id)
  let anyClause := if any.any (·.isNone) then none else bucketClause .any (any.filterMap id)
  match allClause, anyClause with
  | none, clause => clause
  | some clause, none => some clause
  | some left, some right => some (.both left right)

/-- The clause of a filter, if it constrains anything. -/
def filterClause (registry : Registry) (filter : Group) :
    Except Failure (Option (Clause Literal)) :=
  filter.fold (fun condition => (conditionClause registry condition).map some) fun all any => do
    let all ← collect (bucketNodes all)
    let any ← collect (bucketNodes any)
    return groupClause all any

/-- The statement that selects the rows of a table for which a clause holds. -/
def selectAll (table : String) (clause : Option (Clause Literal)) : String :=
  "SELECT * FROM " ++ identifier table ++
    match clause with
    | none => ""
    | some clause => " WHERE " ++ clause.text Literal.write

/-- The statement of a filter. -/
def statement (registry : Registry) (filter : Group) (table : String) : Except Failure String := do
  let clause ← filterClause registry filter
  return selectAll table clause

end RowFilter.Sql
