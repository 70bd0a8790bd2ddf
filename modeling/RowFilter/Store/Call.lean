import RowFilter.Predicate.WhereObject
import RowFilter.Text.Joined

/-!
# Calls to a store

The library never holds a store. It hands a call to whatever holds one, and gets rows or a failure
back.
-/

namespace RowFilter

/-- A call to a store. -/
inductive Call where
  /-- The rows of an entity for which a predicate holds, with the named columns, or with all if none
  is named. -/
  | findMany (entity : String) (predicate : Predicate) (projection : List String)
  /-- The rows that a statement selects. -/
  | queryRaw (sql : String)
  /-- Whether the store can be reached; the answer has no rows. -/
  | ping

/-- A call on one line, for logs: predicates as where-objects, and bars between the columns. -/
def Call.line : Call → String
  | .findMany entity predicate projection =>
    "find_many " ++ entity ++ " " ++ predicate.whereObject.text ++ " " ++ Text.joined "|" projection
  | .queryRaw sql => "query_raw " ++ sql
  | .ping => "ping"

/-- Why a store gave no rows. -/
inductive StoreFailure where
  /-- It rejected or failed the query. -/
  | query (message : String)
  /-- It could not be reached. -/
  | connection (message : String)
  /-- It cannot run such a query. -/
  | unsupported (what : String)
  deriving DecidableEq, Repr

/-- The wording of a store's failure. -/
def StoreFailure.message : StoreFailure → String
  | .query message => message
  | .connection message => "connection error: " ++ message
  | .unsupported what => what ++ " is not supported by this executor"

/-- Anything that answers calls. -/
abbrev Store := Call → Except StoreFailure (List Record)

/-- The record with the named columns only, or with all if none is named. -/
def project (projection : List String) (record : Record) : Record :=
  if projection.isEmpty then record else record.filter fun column => projection.contains column.1

end RowFilter
