import RowFilter.Number.Reading
import RowFilter.Postgres.Problem
import RowFilter.Text.Quoted
import RowFilter.Url.Reader
import RowFilter.Variables

/-!
# Settings of a connection

Where the database is and how it is to be used, from a URL or set one by one. A database must be
named; everything else has a default. The user, password and database of a URL are taken as they are
written there. Durations are in milliseconds.
-/

namespace RowFilter.Postgres

open Number

/-- The settings of a connection. -/
structure ConnectionSettings where
  /-- The host. -/
  host : String
  /-- The port. -/
  port : Nat
  /-- The database. -/
  database : String
  /-- The user. -/
  user : String
  /-- The password. -/
  password : Option String
  /-- How long connecting may take. -/
  connectTimeout : Nat
  /-- How long a statement may run. -/
  statementTimeout : Option Nat
  /-- The name by which the server knows the connection. -/
  applicationName : Option String
  deriving DecidableEq, Repr

/-- Settings of a connection of which any may still be open. -/
structure ConnectionDraft where
  /-- The host. -/
  host : Option String := none
  /-- The port. -/
  port : Option Nat := none
  /-- The database. -/
  database : Option String := none
  /-- The user. -/
  user : Option String := none
  /-- The password. -/
  password : Option String := none
  /-- How long connecting may take. -/
  connectTimeout : Option Nat := none
  /-- How long a statement may run. -/
  statementTimeout : Option Nat := none
  /-- The name by which the server knows the connection. -/
  applicationName : Option String := none

namespace ConnectionDraft

/-- The settings, with defaults for what is open; a database must be named. -/
def finish (draft : ConnectionDraft) : Except Problem ConnectionSettings :=
  match draft.database.filter fun database => !database.isEmpty with
  | none => .error (.configuration "database name is required")
  | some database => .ok {
      host := draft.host.getD "localhost"
      port := draft.port.getD 5432
      database
      user := draft.user.getD "postgres"
      password := draft.password
      connectTimeout := draft.connectTimeout.getD 30000
      statementTimeout := draft.statementTimeout
      applicationName := draft.applicationName }

/-- The draft with what a name and value of a URL's query set; of a setting that stands twice the
last counts. -/
def withPair (draft : ConnectionDraft) (name value : String) : Except Problem ConnectionDraft :=
  if name = "sslmode" then
    if value = "disable" || value = "prefer" then .ok draft
    else
      .error (.configuration
        ("unsupported sslmode '" ++ value ++ "': TLS connections are not available"))
  else if name = "connect_timeout" then
    match readWhole unsigned64 value with
    | .ok seconds => .ok { draft with connectTimeout := some (1000 * seconds.toNat) }
    | .error _ => .error (.configuration "invalid connect_timeout")
  else if name = "statement_timeout" then
    match readWhole unsigned64 value with
    | .ok milliseconds => .ok { draft with statementTimeout := some milliseconds.toNat }
    | .error _ => .error (.configuration "invalid statement_timeout")
  else if name = "application_name" then .ok { draft with applicationName := some value }
  else .ok draft

/-- The draft of the parts of a URL that stand before its query. -/
def ofAuthority (url : Url) (host : String) : ConnectionDraft :=
  { host := some host
    port := some (url.port.getD 5432)
    database := some (String.ofList (url.path.toList.dropWhile (· = '/')))
    user := if url.user.isEmpty then none else some url.user
    password := url.password }

end ConnectionDraft

namespace ConnectionSettings

/-- The settings of a URL that was read. -/
def ofUrl (url : Url) : Except Problem ConnectionSettings :=
  if url.scheme = "postgresql" || url.scheme = "postgres" then
    match url.host with
    | none => .error (.configuration "missing host in URL")
    | some host => do
      let draft ← url.queryPairs.foldlM (fun draft pair => draft.withPair pair.1 pair.2)
        (ConnectionDraft.ofAuthority url host)
      draft.finish
  else
    .error (.configuration
      ("invalid scheme: expected 'postgresql' or 'postgres', got '" ++ url.scheme ++ "'"))

/-- The settings of the text of a URL. -/
def ofText (text : String) : Except Problem ConnectionSettings :=
  match Url.read text with
  | .error fault => .error (.configuration ("invalid database URL: " ++ fault.message))
  | .ok url => ofUrl url

/-- The settings of the variable that holds the URL. -/
def ofVariables (vars : Variables) : Except Problem ConnectionSettings :=
  match vars.nonBlank? "DATABASE_URL" with
  | none => .error (.configuration "DATABASE_URL is not set")
  | some text => ofText text

/-- Whether the host is the path of a local socket rather than a name. -/
def isLocalSocket (settings : ConnectionSettings) : Bool := settings.host.toList.head? = some '/'

/-- Where connections are made to. -/
def endpoint (settings : ConnectionSettings) : String :=
  (if settings.isLocalSocket then "unix " else "tcp ") ++ settings.host

/-- The command-line options that the server is given. -/
def options (settings : ConnectionSettings) : Option String :=
  settings.statementTimeout.map fun timeout => "-c statement_timeout=" ++ toString timeout

/-- A name and value, if there is a value. -/
def namedOption (name : String) : Option String → List (String × String)
  | none => []
  | some value => [(name, value)]

/-- The names and values that a connection starts with. -/
def startup (settings : ConnectionSettings) : List (String × String) :=
  [("client_encoding", "UTF8"), ("user", settings.user), ("database", settings.database)]
    ++ namedOption "options" settings.options
    ++ namedOption "application_name" settings.applicationName

end ConnectionSettings

end RowFilter.Postgres
