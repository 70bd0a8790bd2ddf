import RowFilter.Text.Joined
import RowFilter.Variables

/-!
# Settings of the log

The level and format of the log, and the directive that sets the level for every part of the
program.
-/

namespace RowFilter

/-- How the program logs. -/
structure LogSettings where
  /-- The level. -/
  level : String
  /-- The format. -/
  format : String
  /-- Whether logging was asked for. -/
  enabled : Bool
  deriving DecidableEq, Repr

namespace LogSettings

/-- The levels that may be asked for. -/
def levels : List String := ["trace", "debug", "info", "warn", "error"]

/-- The parts of the program that log. -/
def targets : List String :=
  ["sieve", "sieve_query", "sieve_postgres", "sieve_axum", "sieve_server"]

/-- The text in lower case, if it is among the given ones. -/
def known? (known : List String) (text : Option String) : Option String :=
  (text.map Text.lowercase).filter known.contains

/-- The settings of variables. -/
def ofVariables (vars : Variables) : LogSettings :=
  let debug := vars.flag "SIEVE_DEBUG"
  let requested := vars.get? "SIEVE_LOG_LEVEL"
  { level := (known? levels requested).getD (if debug then "debug" else "warn")
    format := (known? ["pretty", "compact"] (vars.get? "SIEVE_LOG_FORMAT")).getD "json"
    enabled := debug || requested.isSome }

/-- The level of every part of the program, as one directive. -/
def directive (settings : LogSettings) : String :=
  Text.joined "," (targets.map fun target => target ++ "=" ++ settings.level)

end LogSettings

end RowFilter
