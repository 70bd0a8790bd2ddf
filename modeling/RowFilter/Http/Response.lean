import RowFilter.Http.Problem
import RowFilter.Json.Writer

/-!
# Responses

A response has a status and a body, which is a JSON text or empty. Filter routes answer in an
envelope that says whether the request failed, with a message and, as the case may be, a code or
rows; its members keep this order.
-/

namespace RowFilter.Http

/-- A response to a request. -/
structure Response where
  /-- The status. -/
  status : Nat
  /-- The methods that the route would have answered, where the request's method was refused. -/
  allow : Option String := none
  /-- The kind of body. -/
  contentType : Option String := none
  /-- The body. -/
  body : String := ""
  deriving DecidableEq, Repr

namespace Response

/-- The response with a JSON text. -/
def json (status : Nat) (body : String) : Response :=
  { status, contentType := some "application/json", body }

/-- The response to a path without a route. -/
def notFound : Response := { status := 404 }

/-- The response to a method that a route does not answer. -/
def methodRefused (allow : String) : Response := { status := 405, allow := some allow }

/-- The response without its body. -/
def withoutBody (response : Response) : Response := { response with body := "" }

/-- The characters of an envelope around named characters. -/
def envelope (isError : Bool) (body : List (String × List Char)) : String :=
  String.ofList
    (Json.objectChars [("isError", (Json.boolean isError).chars), ("body", Json.objectChars body)])

/-- The response to a request that failed. -/
def ofProblem (problem : Problem) : Response :=
  let code := match problem.code with
    | some code => [("code", Json.stringChars code)]
    | none => []
  json problem.status (envelope true (("message", Json.stringChars problem.message) :: code))

/-- The response with rows. -/
def ofRows (message : String) (rows : List Record) : Response :=
  json 200 (envelope false
    [("message", Json.stringChars message), ("data", (Json.array (rows.map .object)).chars)])

end Response

end RowFilter.Http
