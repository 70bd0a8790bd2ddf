import RowFilter.Predicate.Parameterised

/-!
# Statements for structured queries

The statement of a structured query takes its values as parameters, so its text depends on the shape
of the predicate alone.
-/

namespace RowFilter.Postgres

open RowFilter.Filter

/-- The columns that a statement selects. -/
def selectedColumns (projection : List String) : String :=
  if projection.isEmpty then "*" else Text.joined ", " (projection.map Sql.identifier)

/-- The statement that selects the rows of an entity for which a predicate holds, and its
parameters. -/
def select (entity : String) (predicate : Predicate) (projection : List String) :
    String × List Value :=
  let head := "SELECT " ++ selectedColumns projection ++ " FROM " ++ Sql.identifier entity
  if predicate.isAlways then (head, [])
  else
    let (clause, values) := predicate.toSql 0
    (head ++ " WHERE " ++ clause, values)

end RowFilter.Postgres
