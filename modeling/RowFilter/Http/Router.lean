import RowFilter.Http.FilterRequest
import RowFilter.Http.Response
import RowFilter.Text.Capitalised
import RowFilter.Url.FormData
import RowFilter.Url.Reader

/-!
# Routes

The routes of a service: one that always answers, one that says whether the store can be reached,
and two that filter. A request is answered from the service, its limits and the store alone; the
calls that it makes are part of the outcome. A filter route takes its filter from the body of a
POST, or from the parameter `filter` of a GET.
-/

namespace RowFilter.Http

/-- A service as it is offered to callers. -/
structure Api where
  /-- The service. -/
  service : Service
  /-- The limits on requests. -/
  limits : Limits := {}
  /-- The message of a response with rows. -/
  successMessage : String

/-- The service with the message that names its entity. -/
def Api.ofService (service : Service) (limits : Limits) : Api :=
  { service, limits,
    successMessage := Text.capitalised service.target.entity ++ " filtered successfully" }

/-- A request. -/
structure Request where
  /-- The method. -/
  method : String
  /-- The path, percent signs and all. -/
  path : String
  /-- What follows the question mark; empty if there is none. -/
  query : String
  /-- The body. -/
  body : List UInt8

/-- A request's target without the scheme and the authority that it may start with; after them the
path starts with a slash. -/
def withoutOrigin (target : List Char) : List Char :=
  match Url.splitScheme? target with
  | some (_, '/' :: '/' :: rest) =>
    match rest.dropWhile fun c => !Url.endsAuthority false c with
    | '/' :: path => '/' :: path
    | rest => '/' :: rest
  | _ => target

/-- The path and query of a request's target; a fragment is dropped. -/
def splitTarget (target : String) : String × String :=
  let (path, query) := ((withoutOrigin target.toList).takeWhile (· ≠ '#')).span (· ≠ '?')
  (String.ofList path, String.ofList (query.drop 1))

/-- The request for a target. -/
def Request.ofTarget (method target : String) (body : List UInt8) : Request :=
  ⟨method, (splitTarget target).1, (splitTarget target).2, body⟩

/-- What a request led to. -/
structure Exchange where
  /-- The response. -/
  response : Response
  /-- The calls made, in order. -/
  calls : List Call

/-- The exchange of a response that needs no call. -/
def Exchange.ofResponse (response : Response) : Exchange := ⟨response, []⟩

/-- Where a request may go. -/
inductive Route where
  /-- The route that always answers. -/
  | root
  /-- The route that says whether the store can be reached. -/
  | connectivity
  /-- A filter route. -/
  | filter
  deriving DecidableEq, Repr

/-- The route of a path, for the entity of the service. -/
def Route.ofPath? (entity path : String) : Option Route :=
  if path = "/" then some .root
  else if path = "/test-db" then some .connectivity
  else if path = "/filter" || path = "/" ++ entity ++ "/filter" then some .filter
  else none

/-- The methods that a route answers. -/
def Route.allow : Route → String
  | .root => "GET,HEAD"
  | .connectivity => "GET,HEAD"
  | .filter => "GET,HEAD,POST"

/-- The parameter `filter` of a query, if it stands there; it may stand only once. -/
def filterParameter (query : String) : Except Problem (Option String) :=
  match (Url.FormData.pairs query).filter fun pair => pair.1 == "filter" with
  | [] => .ok none
  | [pair] => .ok (some pair.2)
  | _ => .error (.badRequest "Failed to deserialize query string: duplicate field `filter`")

namespace Api

/-- The body of a request, if it is not too long. -/
def bodyWithin (api : Api) (body : List UInt8) : Except Problem (List UInt8) :=
  if api.limits.bodyOctets < body.length then .error .bodyTooLong else .ok body

/-- The filter request of a POST. -/
def posted (api : Api) (request : Request) : Except Problem FilterRequest := do
  let body ← api.bodyWithin request.body
  FilterRequest.ofBody body

/-- The filter request of a GET. -/
def queried (request : Request) : Except Problem FilterRequest := do
  let parameter ← filterParameter request.query
  FilterRequest.ofParameter parameter

/-- The exchange of a run. -/
def exchangeOfRun (api : Api) (run : Run (List Record)) : Exchange :=
  match run.result with
  | .ok rows => ⟨.ofRows api.successMessage rows, run.calls⟩
  | .error failure => ⟨.ofProblem (.ofFailure failure), run.calls⟩

/-- Answers what was read as a filter request. -/
def filter (api : Api) (store : Store) (read : Except Problem FilterRequest) : Exchange :=
  match read with
  | .error problem => .ofResponse (.ofProblem problem)
  | .ok request =>
    match request.check api.limits with
    | .error problem => .ofResponse (.ofProblem problem)
    | .ok () => api.exchangeOfRun (api.service.filter store request.filter request.mode)

/-- Answers whether the store can be reached. -/
def connectivity (api : Api) (store : Store) : Exchange :=
  let run := api.service.ping store
  match run.result with
  | .ok () =>
    ⟨.json 200 (Json.single "message" (.string "Database connection successful")).text, run.calls⟩
  | .error _ =>
    ⟨.json 500 (Json.single "error" (.string "Database connection failed")).text, run.calls⟩

/-- Answers a GET. -/
def get (api : Api) (store : Store) (request : Request) : Route → Exchange
  | .root => .ofResponse (.json 200 (Json.single "message" (.string "API is running")).text)
  | .connectivity => api.connectivity store
  | .filter => api.filter store (queried request)

/-- Answers a request to a route. -/
def answer (api : Api) (store : Store) (request : Request) (route : Route) : Exchange :=
  if request.method = "GET" then api.get store request route
  else if request.method = "HEAD" then
    let exchange := api.get store request route
    ⟨exchange.response.withoutBody, exchange.calls⟩
  else if request.method = "POST" && route = .filter then api.filter store (api.posted request)
  else .ofResponse (.methodRefused route.allow)

/-- Answers a request. -/
def handle (api : Api) (store : Store) (request : Request) : Exchange :=
  match Route.ofPath? api.service.target.entity request.path with
  | some route => api.answer store request route
  | none => .ofResponse .notFound

end Api

end RowFilter.Http
