import RowFilter.Postgres.Parameter
import RowFilter.Postgres.Pool
import RowFilter.Postgres.Row
import RowFilter.Postgres.Select

/-!
# Sessions with a server

Calls to a database over a pool of one connection. The connection is made by the first call and
again after it was lost. A structured query is prepared once for each connection, a statement of any
other kind every time; its parameters are bound when the server has named their types. The server is
anything that answers the requests of the protocol, and may refuse them or drop the connection.
-/

namespace RowFilter.Postgres

open RowFilter.Filter

/-- What a server answers when it executes a statement. -/
inductive Execution where
  /-- It gives rows. -/
  | rows (rows : List WireRow)
  /-- It refuses. -/
  | refused (error : ServerError)
  /-- It drops the connection. -/
  | dropped

/-- What a server says about a statement that it has prepared. -/
structure Prepared where
  /-- The types of its parameters. -/
  parameters : List ColumnType
  /-- The columns of its result. -/
  columns : List Column

/-- A server. -/
structure Server where
  /-- What it answers to the start of a connection. -/
  connect : List (String × String) → Except ConnectFault Unit
  /-- What it answers to a statement to prepare. -/
  prepare : String → Except ServerError Prepared
  /-- What it answers to a statement with the octets of its parameters. -/
  execute : String → List (Option (List UInt8)) → Execution

/-- The state of a connection. -/
structure Connection where
  /-- The structured queries that were prepared. -/
  prepared : List (String × Prepared) := []
  /-- Whether the connection was lost. -/
  lost : Bool := false

/-- What a call sent to the server. -/
structure Traffic where
  /-- The names and values that each connection made by the call started with. -/
  startups : List (List (String × String)) := []
  /-- The statements that were prepared, in order. -/
  statements : List String := []
  /-- The octets of the parameters of each execution, in order. -/
  executions : List (List (Option (List UInt8))) := []

/-- A step that talks to the server: it may change the connection, may fail, and what it sent is
kept either way. -/
abbrev Step (α : Type) := ExceptT Problem (StateM (Option Connection × Traffic)) α

namespace Session

/-- Notes what was sent. -/
def sent (note : Traffic → Traffic) : Step Unit := modify fun state => (state.1, note state.2)

/-- Puts a connection in place of the one there was. -/
def keep (connection : Option Connection) : Step Unit := modify fun state => (connection, state.2)

/-- A connection: the one there is, unless it was lost, or a new one. -/
def acquire (server : Server) (settings : ConnectionSettings) : Step Connection := do
  match (← get).1.filter fun connection => !connection.lost with
  | some connection => return connection
  | none =>
    keep none
    match server.connect settings.startup with
    | .ok () =>
      sent fun traffic => { traffic with startups := traffic.startups ++ [settings.startup] }
      keep (some {})
      return {}
    | .error (.refused error) =>
      sent fun traffic => { traffic with startups := traffic.startups ++ [settings.startup] }
      throw (.connect (.refused error))
    | .error .unreachable => throw (.connect .unreachable)

/-- Prepares a statement, if it can be sent. -/
def prepare (server : Server) (sql : String) : Step Prepared := do
  if sql.toList.any fun c => c.toNat = 0 then throw .unsendable
  sent fun traffic => { traffic with statements := traffic.statements ++ [sql] }
  match server.prepare sql with
  | .ok prepared => return prepared
  | .error error => throw (.server error)

/-- Prepares a statement, unless the connection has prepared it already. -/
def prepareOnce (server : Server) (connection : Connection) (sql : String) : Step Prepared := do
  match connection.prepared.lookup sql with
  | some prepared => return prepared
  | none =>
    let prepared ← prepare server sql
    keep (some { connection with prepared := (sql, prepared) :: connection.prepared })
    return prepared

/-- Executes a statement. -/
def execute (server : Server) (sql : String) (parameters : List (Option (List UInt8))) :
    Step (List WireRow) := do
  sent fun traffic => { traffic with executions := traffic.executions ++ [parameters] }
  match server.execute sql parameters with
  | .rows rows => return rows
  | .refused error => throw (.server error)
  | .dropped =>
    keep (some { lost := true })
    throw .connectionClosed

/-- Prepares and executes a statement that takes no parameters. -/
def executeBare (server : Server) (settings : ConnectionSettings) (sql : String) :
    Step (Prepared × List WireRow) := do
  let _ ← acquire server settings
  let prepared ← prepare server sql
  if prepared.parameters.isEmpty then
    let rows ← execute server sql []
    return (prepared, rows)
  else throw (.parameterCount prepared.parameters.length 0)

/-- The records of a structured query. -/
def findMany (server : Server) (settings : ConnectionSettings) (entity : String)
    (predicate : Predicate)
    (projection : List String) : Step (List Record) := do
  let (sql, values) := select entity predicate projection
  let connection ← acquire server settings
  let prepared ← prepareOnce server connection sql
  let parameters ← Parameter.bindAll values prepared.parameters
  let rows ← execute server sql (parameters.map Parameter.octets?)
  recordsOf prepared.columns rows

/-- The records of a statement. -/
def queryRaw (server : Server) (settings : ConnectionSettings) (sql : String) :
    Step (List Record) := do
  let (prepared, rows) ← executeBare server settings sql
  recordsOf prepared.columns rows

/-- Asks for one row. -/
def selectOne (server : Server) (settings : ConnectionSettings) : Step Unit := do
  let (_, rows) ← executeBare server settings "SELECT 1"
  if rows.length = 1 then return () else throw .rowCount

/-- Answers a call. -/
def answer (server : Server) (settings : ConnectionSettings) : Call → Step (List Record)
  | .findMany entity predicate projection => findMany server settings entity predicate projection
  | .queryRaw sql => queryRaw server settings sql
  | .ping => do
    selectOne server settings
    return []

/-- What a step gives, the connection after it, and what it sent. -/
def run {α : Type} (step : Step α) (connection : Option Connection) :
    Except Problem α × Option Connection × Traffic :=
  Id.run ((ExceptT.run step).run (connection, {}))

/-- What a step gives and sends each time, and the connection at the end, when it is run so often on
one connection. -/
def repeated {α : Type} (step : Step α) : Nat → Option Connection →
    List (Except Problem α × Traffic) × Option Connection
  | 0, connection => ([], connection)
  | n + 1, connection =>
    let (result, connection, traffic) := run step connection
    let (runs, connection) := repeated step n connection
    ((result, traffic) :: runs, connection)

/-- The state of the pool, given its connection. -/
def status (connection : Option Connection) : PoolStatus :=
  if connection.isSome then ⟨1, 1, 1, 0⟩ else ⟨0, 0, 1, 0⟩

end Session

end RowFilter.Postgres
