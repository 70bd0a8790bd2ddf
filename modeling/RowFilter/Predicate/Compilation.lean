import RowFilter.Predicate.Basic

/-!
# Predicates of filters

Every condition of a filter becomes a test of one field, a range two tests; a group becomes all of
its first bucket together with one of its second.
-/

namespace RowFilter.Predicate

open RowFilter.Filter

/-- The test of a comparison. -/
def ofComparison (condition : Condition) (relation : Relation) : Except Failure Predicate :=
  condition.scalarArgument.map (.compare condition.field relation)

/-- The test of a search for a text. -/
def ofSearch (condition : Condition) (occurrence : Occurrence) : Except Failure Predicate :=
  condition.scalarArgument.map fun value => .search condition.field occurrence value.display

/-- The predicate of a condition. -/
def ofCondition (condition : Condition) : Except Failure Predicate :=
  match condition.operator with
  | .eq => ofComparison condition .equal
  | .neq => ofComparison condition .notEqual
  | .gt => ofComparison condition .greater
  | .lt => ofComparison condition .less
  | .gte => ofComparison condition .greaterOrEqual
  | .lte => ofComparison condition .lessOrEqual
  | .member => condition.listArgument.map (.member condition.field)
  | .between => condition.boundsArgument.map fun (low, high) =>
      .all
        [.compare condition.field .greaterOrEqual low, .compare condition.field .lessOrEqual high]
  | .contains => ofSearch condition .anywhere
  | .startsWith => ofSearch condition .atStart
  | .endsWith => ofSearch condition .atEnd
  | .isNull => .ok (.isNull condition.field)
  | .isNotNull => .ok (.isNotNull condition.field)

/-- The predicate of a filter. -/
def ofFilter (filter : Group) : Except Failure Predicate :=
  filter.fold ofCondition fun all any => do
    let all ← collect (bucketNodes all)
    let any ← collect (bucketNodes any)
    return allOf [allOf all, anyOf any]

end RowFilter.Predicate
