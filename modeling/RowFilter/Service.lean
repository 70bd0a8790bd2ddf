import RowFilter.Predicate.Compilation
import RowFilter.Predicate.WhereObject
import RowFilter.Sql.Statement
import RowFilter.Store.Call
import RowFilter.Validation

/-!
# Filtering an entity

A service filters one entity: it validates a filter, compiles it by one of two compilers, and hands
the query to a store by exactly one call. A filter that fails before that makes no call. What a run
did is a value, so it can be compared.
-/

namespace RowFilter

open RowFilter.Filter RowFilter.Schema

/-- Which compiler makes the query. -/
inductive Mode where
  /-- A predicate for a store that takes structured queries. -/
  | structured
  /-- A statement that carries its values. -/
  | sql
  deriving DecidableEq, Repr

namespace Mode

/-- The mode of a flag: only `sql` asks for a statement. -/
def ofFlag (flag : Option String) : Mode := if flag = some "sql" then .sql else .structured

/-- The name of a mode. -/
def name : Mode → String
  | .structured => "prisma"
  | .sql => "sql"

end Mode

/-- What a service filters. -/
structure Target where
  /-- The entity that structured queries name. -/
  entity : String
  /-- The table that statements name. -/
  table : String
  /-- The columns that callers get; all if none is named. -/
  projection : List String
  deriving DecidableEq, Repr

/-- The target of a name that is both entity and table, with all columns. -/
def Target.named (name : String) : Target := ⟨name, name, []⟩

/-- A compiled filter. -/
inductive Query where
  /-- A predicate. -/
  | structured (predicate : Predicate)
  /-- A statement. -/
  | sql (statement : String)

/-- A query as a document. -/
def Query.toJson : Query → Json
  | .structured predicate =>
    .object [("mode", .string "structured"), ("query", predicate.whereObject)]
  | .sql statement =>
    .object [("mode", .string "sql"), ("query", .single "query" (.string statement))]

/-- What a run gave, and the calls it made. -/
structure Run (α : Type) where
  /-- What it gave. -/
  result : Except Failure α
  /-- The calls it made, in order. -/
  calls : List Call

/-- A service for one entity. -/
structure Service where
  /-- The fields of the entity. -/
  registry : Registry
  /-- What is filtered. -/
  target : Target

namespace Service

/-- The query of a filter that fits the schema. -/
def compileValid (service : Service) (filter : Group) : Mode → Except Failure Query
  | .structured => (Predicate.ofFilter filter).map .structured
  | .sql => (Sql.statement service.registry filter service.target.table).map .sql

/-- The query of a filter. -/
def compile (service : Service) (filter : Group) (mode : Mode) : Except Failure Query :=
  match Validation.issues service.registry filter with
  | [] => service.compileValid filter mode
  | issues =>
    .error ((Failure.invalidFilter (issues.map (·.message))).withEntity service.target.entity)

/-- The failure of a call. -/
def callFailed (service : Service) (operation : String) (failure : StoreFailure) : Failure :=
  (Failure.executionFailed failure.message).withEntity service.target.entity
    |>.withOperation operation

/-- The call that runs a query. -/
def callOf (service : Service) : Query → Call
  | .structured predicate => .findMany service.target.entity predicate service.target.projection
  | .sql statement => .queryRaw statement

/-- What the answer to a query's call gives: the rows, of which a statement's are still to be
projected. -/
def rowsOf (service : Service) (answer : Except StoreFailure (List Record)) :
    Query → Except Failure (List Record)
  | .structured _ =>
    match answer with
    | .ok rows => .ok rows
    | .error failure => .error (service.callFailed "find_many" failure)
  | .sql statement =>
    match answer with
    | .ok rows => .ok (rows.map (project service.target.projection))
    | .error failure => .error ((service.callFailed "query_raw" failure).withSql statement)

/-- Validates, compiles and runs a filter. -/
def filter (service : Service) (store : Store) (filter : Group) (mode : Mode) : Run (List Record) :=
  match service.compile filter mode with
  | .error failure => ⟨.error failure, []⟩
  | .ok query => ⟨service.rowsOf (store (service.callOf query)) query, [service.callOf query]⟩

/-- Checks that the store can be reached. -/
def ping (service : Service) (store : Store) : Run Unit :=
  match store .ping with
  | .ok _ => ⟨.ok (), [.ping]⟩
  | .error failure => ⟨.error (service.callFailed "ping" failure), [.ping]⟩

end Service

end RowFilter
