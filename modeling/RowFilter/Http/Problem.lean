import RowFilter.Failure

/-!
# Problems with requests

Why a request is not answered with rows: a status and a message, and a code if the filter or the
store was at fault rather than the request around them.
-/

namespace RowFilter.Http

/-- Why a request is not answered with rows. -/
structure Problem where
  /-- The status of the response. -/
  status : Nat
  /-- The code of the failure behind it. -/
  code : Option String := none
  /-- The message to the caller. -/
  message : String
  deriving DecidableEq, Repr

namespace Problem

/-- The problem of a request that cannot be read. -/
def badRequest (message : String) : Problem := { status := 400, message }

/-- The problem of a request whose body is too long. -/
def bodyTooLong : Problem :=
  { status := 413, message := "Failed to buffer the request body: length limit exceeded" }

/-- The problem of what the caller cannot mend. -/
def internal (message : String) : Problem := { status := 500, message }

/-- The problem that a failure makes; its context is not shown to the caller. -/
def ofFailure (failure : Failure) : Problem :=
  { status := failure.cause.httpStatus, code := some failure.cause.code,
    message := failure.message }

end Problem

end RowFilter.Http
