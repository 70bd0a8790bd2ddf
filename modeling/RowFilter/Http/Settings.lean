import RowFilter.Http.Limits
import RowFilter.Variables

/-!
# Settings of the server

Where the server listens, what it filters and within which limits, read from variables with a
default for each. The limits are read first, then the port.
-/

namespace RowFilter.Http

open Number

/-- How the server is set up. -/
structure Settings where
  /-- The interface. -/
  host : String
  /-- The port. -/
  port : Nat
  /-- The URL of the database, if there is one. -/
  databaseUrl : Option String
  /-- The table, which is also the entity. -/
  table : String
  /-- The limits on requests. -/
  limits : Limits
  deriving DecidableEq, Repr

namespace Settings

/-- A whole number of a variable, or a default if it is unset. -/
def wholeOr (vars : Variables) (name : String) (range : WholeRange) (default : Nat) :
    Except Failure Nat := do
  let read ← vars.parse? name (readWhole range)
  return (read.map Int.toNat).getD default

/-- The limits of variables. -/
def limitsOf (vars : Variables) : Except Failure Limits := do
  let defaults : Limits := {}
  let bodyOctets ← wholeOr vars "SIEVE_MAX_BODY_BYTES" unsigned64 defaults.bodyOctets
  let depth ← wholeOr vars "SIEVE_MAX_FILTER_DEPTH" unsigned64 defaults.depth
  let conditions ← wholeOr vars "SIEVE_MAX_FILTER_CONDITIONS" unsigned64 defaults.conditions
  return { bodyOctets, depth, conditions }

/-- The settings of variables. -/
def ofVariables (vars : Variables) : Except Failure Settings := do
  let limits ← limitsOf vars
  let port ← wholeOr vars "PORT" unsigned16 3000
  return {
    host := vars.getOr "SIEVE_HOST" "0.0.0.0"
    port
    databaseUrl := vars.nonBlank? "DATABASE_URL"
    table := vars.getOr "SIEVE_TABLE" "users"
    limits }

/-- Where the server listens. -/
def bindAddress (settings : Settings) : String := settings.host ++ ":" ++ toString settings.port

end Settings

end RowFilter.Http
