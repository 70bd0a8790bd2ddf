import RowFilter.Postgres.Pool

/-!
# Summaries for logs

Settings and pools on one line, with every part named and in order. A password is never shown, only
whether there is one.
-/

namespace RowFilter.Postgres.Summary

open Number Text

/-- A fraction of a second in thousandths, without zeros at its end. -/
def fractionChars (thousandths : Nat) : List Char :=
  let digits := [thousandths / 100, thousandths / 10 % 10, thousandths % 10]
  match (digits.reverse.dropWhile (· = 0)).reverse with
  | [] => []
  | kept => '.' :: kept.flatMap digitChars

/-- A duration: in milliseconds below one second, in seconds from there on. -/
def duration (milliseconds : Nat) : String :=
  if milliseconds = 0 then "0ns"
  else if milliseconds < 1000 then toString milliseconds ++ "ms"
  else toString (milliseconds / 1000) ++ String.ofList (fractionChars (milliseconds % 1000)) ++ "s"

/-- What may be absent. -/
def optional : Option String → String
  | none => "None"
  | some text => "Some(" ++ text ++ ")"

/-- A value with its name. -/
def part (name text : String) : String := name ++ ": " ++ text

/-- Named parts under a title. -/
def parts (title : String) (body : List String) : String :=
  title ++ " \x7b " ++ joined ", " body ++ " \x7d"

/-- The summary of settings. -/
def settings (settings : ConnectionSettings) : String :=
  parts "PgConfig"
    [part "host" (quoted settings.host),
     part "port" (toString settings.port),
     part "database" (quoted settings.database),
     part "user" (quoted settings.user),
     part "password" (optional (settings.password.map fun _ => quoted "***")),
     part "connect_timeout" (duration settings.connectTimeout),
     part "statement_timeout" (optional (settings.statementTimeout.map duration)),
     part "application_name" (optional (settings.applicationName.map quoted))]

/-- The summary of a pool's state. -/
def status (status : PoolStatus) : String :=
  parts "PoolStatus"
    [part "available" (toString status.available), part "size" (toString status.size),
     part "max_size" (toString status.greatest), part "waiting" (toString status.waiting)]

/-- The summary of a pool. -/
def pool (pool : Pool) : String :=
  parts "PgPool" [part "config" (settings pool.settings), part "status" (status pool.status)]

end RowFilter.Postgres.Summary
