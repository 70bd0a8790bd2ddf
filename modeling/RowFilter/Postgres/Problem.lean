import RowFilter.Failure
import RowFilter.Store.Call

/-!
# Problems with the database

Why the database, the connection to it or the settings for it gave no answer. Problems of the pool
and a closed connection count as problems of the connection, all others as problems of the query.
-/

namespace RowFilter.Postgres

/-- What the server says when it refuses a request. -/
structure ServerError where
  /-- The state code. -/
  state : String
  /-- The message. -/
  message : String
  deriving DecidableEq, Repr

/-- Why no connection could be made. -/
inductive ConnectFault where
  /-- The server refused the connection. -/
  | refused (error : ServerError)
  /-- There is no server. -/
  | unreachable
  deriving DecidableEq, Repr

/-- The wording of why no connection could be made. -/
def ConnectFault.message : ConnectFault → String
  | .refused _ => "db error"
  | .unreachable => "error connecting to server"

/-- Why something failed. -/
inductive Problem where
  /-- The pool is closed. -/
  | poolClosed
  /-- The pool could make no connection. -/
  | connect (fault : ConnectFault)
  /-- The server refused a statement. -/
  | server (error : ServerError)
  /-- The connection was closed. -/
  | connectionClosed
  /-- A statement has the character that ends texts on the wire, so it cannot be sent. -/
  | unsendable
  /-- A statement gave another number of rows than the one that was asked for. -/
  | rowCount
  /-- A statement takes another number of parameters than were given. -/
  | parameterCount (expected given : Nat)
  /-- The settings are wrong. -/
  | configuration (message : String)
  /-- A value does not fit its parameter. -/
  | conversion (message : String)
  /-- A column's octets do not fit its type. -/
  | decoding (message : String)
  deriving DecidableEq, Repr

namespace Problem

/-- The wording of a problem. -/
def message : Problem → String
  | .poolClosed => "pool error: Pool has been closed"
  | .connect fault => "pool error: Error occurred while creating a new object: " ++ fault.message
  | .server error => error.message
  | .connectionClosed => "connection closed"
  | .unsendable => "error encoding message to server"
  | .rowCount => "query returned an unexpected number of rows"
  | .parameterCount expected given =>
    "expected " ++ toString expected ++ " parameters but got " ++ toString given
  | .configuration message => "configuration error: " ++ message
  | .conversion message => "type conversion error: " ++ message
  | .decoding message => "deserialization error: " ++ message

/-- Whether the connection is at fault rather than the query. -/
def isConnectionProblem : Problem → Bool
  | .poolClosed => true
  | .connect _ => true
  | .connectionClosed => true
  | _ => false

/-- The state code, if the server gave one. -/
def state? : Problem → Option String
  | .server error => some error.state
  | _ => none

/-- The problem as the failure of a store. -/
def toStoreFailure (problem : Problem) : StoreFailure :=
  if problem.isConnectionProblem then .connection problem.message else .query problem.message

/-- The problem as a failure. -/
def toFailure : Problem → Failure
  | .configuration message => .invalidConfiguration message
  | problem => .executionFailed problem.message

end Problem

end RowFilter.Postgres
