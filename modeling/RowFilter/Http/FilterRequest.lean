import RowFilter.Filter.Reader
import RowFilter.Http.Limits
import RowFilter.Http.Problem
import RowFilter.Service
import RowFilter.Text.Blank

/-!
# Filters in requests

What callers send: a filter with one more member, which says how the filter is to be compiled. It
comes as the body of a request or as a parameter of its URL; a blank body is the filter without
buckets.
-/

namespace RowFilter.Http

open RowFilter.Filter
open Json (Attempt ReadError Source)

/-- A filter and the flag that says how it is compiled. -/
structure FilterRequest where
  /-- The filter. -/
  filter : Group := {}
  /-- The flag. -/
  config : Option String := none

namespace FilterRequest

/-- The names of the members of a request. -/
def fields : List String := groupFields ++ ["config"]

/-- The members of a request read so far. -/
structure Parts where
  /-- The buckets. -/
  buckets : Buckets := {}
  /-- The flag; one that was read as null is not the same as one that was not read. -/
  config : Option (Option String) := none

/-- The request of the parts. -/
def Parts.toRequest (parts : Parts) : FilterRequest := ⟨parts.buckets.toGroup, parts.config.join⟩

/-- Reads the flag. -/
def readConfig (text : Source) : Attempt (Option String × Source) :=
  Json.expectOptional Json.expectString text

/-- Reads a member of a request after its name. -/
def readMember (depth : Nat) (name : String) (parts : Parts) (text : Source) :
    Attempt (Parts × Source) :=
  if name = "config" then do
    let (config, rest) ← Json.memberOnce name parts.config readConfig text
    return ({ parts with config := some config }, rest)
  else do
    let (buckets, rest) ← readBucketMember fields depth name parts.buckets text
    return ({ parts with buckets }, rest)

/-- Reads a request by position. -/
def readItems (depth : Nat) (text : Source) : Attempt (FilterRequest × Source) := do
  let (buckets, rest) ← readBucketItems depth text
  let (config, rest) ← Json.itemOrEnd readConfig false rest
  return (Parts.toRequest ⟨buckets, config⟩, rest)

/-- Reads a request. -/
def read (depth : Nat) (text : Source) : Attempt (FilterRequest × Source) :=
  Json.expectRecord "struct FilterRequest" readItems readMember {}
    (fun parts => .ok parts.toRequest) depth text

/-- Reads a whole document as a request. -/
def parse (text : Source) : Except ReadError FilterRequest := Json.document read text

/-- The request of a body. -/
def ofBody (octets : List UInt8) : Except Problem FilterRequest :=
  if octets.all Text.isAsciiBlank then .ok {}
  else match parse (Text.decode octets) with
    | .ok request => .ok request
    | .error error =>
      .error (.ofFailure (.malformedFilter ("Invalid filter structure: " ++ error.message)))

/-- The request of a parameter, if there is one. -/
def ofParameter : Option String → Except Problem FilterRequest
  | none => .error (.badRequest "Missing 'filter' query parameter")
  | some text =>
    match parse (Text.symbols text) with
    | .ok request => .ok request
    | .error _ =>
      .error (.ofFailure
        (.malformedFilter "Invalid encoded filter format. Expected URI encoded JSON."))

/-- How the filter is to be compiled. -/
def mode (request : FilterRequest) : Mode := .ofFlag request.config

/-- Refuses a request whose filter exceeds a limit. -/
def check (limits : Limits) (request : FilterRequest) : Except Problem Unit :=
  (limits.check request.filter).mapError .ofFailure

end FilterRequest

end RowFilter.Http
