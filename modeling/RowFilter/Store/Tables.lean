import RowFilter.Predicate.Matching
import RowFilter.Store.Call

/-!
# Tables in memory

A store that holds the rows of each entity in memory. Predicates are decided row by row, in stored
order; statements it cannot run.
-/

namespace RowFilter

/-- Rows by entity. -/
structure Tables where
  /-- The rows of each entity. -/
  tables : List (String × List Record) := []

namespace Tables

/-- The tables with the rows of one entity, which replace any it had. -/
def insert (store : Tables) (entity : String) (rows : List Record) : Tables :=
  ⟨(entity, rows) :: store.tables.filter fun table => table.1 != entity⟩

/-- The rows of an entity, if it has a table. -/
def find? (store : Tables) (entity : String) : Option (List Record) := store.tables.lookup entity

/-- The rows of an entity, none if it has no table. -/
def rows (store : Tables) (entity : String) : List Record := (store.find? entity).getD []

/-- The failure of a call on an entity without a table. -/
def noTable (entity : String) : StoreFailure :=
  .query ("relation \"" ++ entity ++ "\" does not exist")

/-- The rows for which a predicate holds, in stored order, with the named columns. -/
def select (predicate : Predicate) (projection : List String) (rows : List Record) : List Record :=
  (rows.filter fun row => predicate.holds row).map (project projection)

/-- Answers a call. -/
def answer (store : Tables) : Store
  | .findMany entity predicate projection =>
    match store.find? entity with
    | some rows => .ok (select predicate projection rows)
    | none => .error (noTable entity)
  | .queryRaw _ => .error (.unsupported "raw SQL")
  | .ping => .ok []

end Tables

end RowFilter
