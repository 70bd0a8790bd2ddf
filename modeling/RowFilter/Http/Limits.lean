import RowFilter.Failure
import RowFilter.Filter.Tree

/-!
# Limits on requests

What a request may at most send: how many octets in its body, and how deeply nested a filter with
how many conditions. The depth is checked before the number of conditions.
-/

namespace RowFilter.Http

open RowFilter.Filter

/-- The limits on one request. -/
structure Limits where
  /-- The greatest number of octets in a body. -/
  bodyOctets : Nat := 65536
  /-- The greatest depth of a filter. -/
  depth : Nat := 8
  /-- The greatest number of conditions in a filter. -/
  conditions : Nat := 100
  deriving DecidableEq, Repr

namespace Limits

/-- The failure of a filter that is nested too deeply. -/
def tooDeep (depth limit : Nat) : Failure :=
  .tooComplex ("Filter nesting depth " ++ toString depth ++ " exceeds the limit of " ++
    toString limit)

/-- The failure of a filter with too many conditions. -/
def tooManyConditions (count limit : Nat) : Failure :=
  .tooComplex ("Filter has " ++ toString count ++ " conditions, the limit is " ++ toString limit)

/-- Refuses a filter that exceeds a limit. -/
def check (limits : Limits) (filter : Group) : Except Failure Unit :=
  if limits.depth < filter.depth then .error (tooDeep filter.depth limits.depth)
  else if limits.conditions < filter.conditionCount then
    .error (tooManyConditions filter.conditionCount limits.conditions)
  else .ok ()

end Limits

end RowFilter.Http
