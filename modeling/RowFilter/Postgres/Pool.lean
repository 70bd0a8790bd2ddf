import RowFilter.Postgres.Settings

/-!
# Pools of connections

A pool makes connections when they are asked for, up to a greatest number, and keeps those that were
given back. Making a pool makes no connection. A closed pool gives none and has room for none.
-/

namespace RowFilter.Postgres

open Number

/-- The limits of a pool; durations are in milliseconds, and without one there is no limit. -/
structure PoolLimits where
  /-- The greatest number of connections. -/
  greatest : Nat := 10
  /-- How long waiting for a connection, or making one, may take. -/
  connectionTimeout : Option Nat := some 30000
  /-- How long checking a connection that was given back may take. -/
  recycleTimeout : Option Nat := some 5000
  deriving DecidableEq, Repr

namespace PoolLimits

/-- The problem of a variable that cannot be read. -/
def badVariable (failure : Failure) : Problem := .configuration failure.message

/-- The limits with the greatest number that a variable sets, which must not be zero. -/
def withGreatest (limits : PoolLimits) (vars : Variables) : Except Problem PoolLimits := do
  let read ← (vars.parse? "SIEVE_PG_MAX_CONNECTIONS" (readWhole unsigned64)).mapError badVariable
  match read with
  | none => return limits
  | some greatest =>
    if greatest = 0 then throw (.configuration "SIEVE_PG_MAX_CONNECTIONS must be at least 1")
    else return { limits with greatest := greatest.toNat }

/-- The limits with the duration in seconds that a variable sets. -/
def withConnectionTimeout (limits : PoolLimits) (vars : Variables) : Except Problem PoolLimits := do
  let read ←
    (vars.parse? "SIEVE_PG_CONNECT_TIMEOUT_SECS" (readWhole unsigned64)).mapError badVariable
  match read with
  | none => return limits
  | some seconds => return { limits with connectionTimeout := some (1000 * seconds.toNat) }

/-- The limits of variables. -/
def ofVariables (vars : Variables) : Except Problem PoolLimits := do
  let limits ← ({} : PoolLimits).withGreatest vars
  limits.withConnectionTimeout vars

end PoolLimits

/-- The state of a pool, in numbers. -/
structure PoolStatus where
  /-- The connections that may be had at once. -/
  available : Nat
  /-- The connections there are. -/
  size : Nat
  /-- The greatest number of connections. -/
  greatest : Nat
  /-- The callers waiting for a connection. -/
  waiting : Nat
  deriving DecidableEq, Repr

/-- A pool that nobody has asked for a connection yet. -/
structure Pool where
  /-- The settings of its connections. -/
  settings : ConnectionSettings
  /-- Its limits. -/
  limits : PoolLimits := {}
  /-- Whether it was closed. -/
  closed : Bool := false
  deriving DecidableEq, Repr

namespace Pool

/-- The state of the pool. -/
def status (pool : Pool) : PoolStatus := ⟨0, 0, if pool.closed then 0 else pool.limits.greatest, 0⟩

/-- The pool after closing it. -/
def close (pool : Pool) : Pool := { pool with closed := true }

end Pool

/-- What a pool is made from. -/
structure PoolPlan where
  /-- The settings of its connections, which win over a URL. -/
  settings : Option ConnectionSettings := none
  /-- The URL of the database. -/
  url : Option String := none
  /-- Its limits. -/
  limits : PoolLimits := {}

/-- Makes the pool. -/
def PoolPlan.build (plan : PoolPlan) : Except Problem Pool :=
  match plan.settings, plan.url with
  | some settings, _ => .ok { settings, limits := plan.limits }
  | none, some url =>
    (ConnectionSettings.ofText url).map fun settings => { settings, limits := plan.limits }
  | none, none => .error (.configuration "no database URL or config provided")

end RowFilter.Postgres
