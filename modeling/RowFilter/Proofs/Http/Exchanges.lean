import RowFilter.Http.Router
import RowFilter.Proofs.Filter.Folding
import RowFilter.Proofs.Http.Responses
import RowFilter.Proofs.Store.Projections
import RowFilter.Users

/-!
# Exchanges of the filter routes

What a filter route makes of a request is one of four things. The request cannot be read, its filter
exceeds a limit, the service turns the filter down, or the store is called, once. Only in the last
case does anything depend on the store, and of a store's failure nothing but its message is told.
-/

namespace RowFilter.Http

open RowFilter.Filter

/-- Whether a filter request is within the limits and its filter has no problems. -/
structure Api.Admits (api : Api) (read : FilterRequest) : Prop where
  depth_le : read.filter.depth ≤ api.limits.depth
  conditionCount_le : read.filter.conditionCount ≤ api.limits.conditions
  issues_eq_nil : Validation.issues api.service.registry read.filter = []

/-- The call that a compiled filter request makes. -/
inductive Executes (service : Service) (read : FilterRequest) : Call → Prop
  | structured {predicate : Predicate} (flag : read.config ≠ some "sql")
      (compiled : Predicate.ofFilter read.filter = .ok predicate) :
      Executes service read
        (.findMany service.target.entity predicate service.target.projection)
  | sql {statement : String} (flag : read.config = some "sql")
      (compiled : Sql.statement service.registry read.filter service.target.table =
        .ok statement) :
      Executes service read (.queryRaw statement)

/-- What callers are shown of the rows that a call gets: of a statement's rows the named columns,
and the rows of a structured query as they are, for which the store was told the columns. -/
inductive Shown (columns : List String) : Call → List Record → List Record → Prop
  | findMany (entity : String) (predicate : Predicate) (projection : List String)
      (rows : List Record) : Shown columns (.findMany entity predicate projection) rows rows
  | queryRaw (statement : String) {rows shown : List Record}
      (each : List.Forall₂ (Record.IsProjection columns) rows shown) :
      Shown columns (.queryRaw statement) rows shown

/-- The response to what a store answered to a call: to rows what is shown of them, and to a failure
its message, without the call. -/
inductive Api.Answers (api : Api) (call : Call) (response : Response) :
    Except StoreFailure (List Record) → Prop
  | rows {rows shown : List Record}
      (projected : Shown api.service.target.projection call rows shown)
      (shows : response.Shows api.successMessage shown) : Answers api call response (.ok rows)
  | failure {failure : StoreFailure}
      (refuses : response.Refuses 500 (some "S5001")
        ("Database query failed: " ++ failure.message)) :
      Answers api call response (.error failure)

/-! ### Compiled requests -/

section Compiled

variable {service : Service} {read : FilterRequest}

theorem FilterRequest.mode_of_sql (flag : read.config = some "sql") : read.mode = .sql := by
  rw [mode, Mode.ofFlag, if_pos flag]

theorem FilterRequest.mode_of_not_sql (flag : read.config ≠ some "sql") :
    read.mode = .structured := by
  rw [mode, Mode.ofFlag, if_neg flag]

/-- A request makes the call of the query that the service compiles in the request's mode. -/
theorem executes_iff (call : Call) :
    Executes service read call ↔
      ∃ query, service.compileValid read.filter read.mode = .ok query ∧
        service.callOf query = call := by
  constructor
  · rintro (⟨flag, compiled⟩ | ⟨flag, compiled⟩)
    · refine ⟨.structured _, ?_, rfl⟩
      rw [FilterRequest.mode_of_not_sql flag, Service.compileValid, compiled]
      rfl
    · refine ⟨.sql _, ?_, rfl⟩
      rw [FilterRequest.mode_of_sql flag, Service.compileValid, compiled]
      rfl
  · rintro ⟨query, compiled, rfl⟩
    by_cases flag : read.config = some "sql"
    · rw [FilterRequest.mode_of_sql flag, Service.compileValid, map_eq_ok_iff] at compiled
      obtain ⟨statement, hstatement, rfl⟩ := compiled
      exact .sql flag hstatement
    · rw [FilterRequest.mode_of_not_sql flag, Service.compileValid, map_eq_ok_iff] at compiled
      obtain ⟨predicate, hpredicate, rfl⟩ := compiled
      exact .structured flag hpredicate

/-- The response to a store's failure has its message, whatever the context that the failure is
given. -/
theorem refuses_of_executionFailed {failure : Failure} {message : String}
    (cause : failure.cause = .executionFailed message) :
    (Response.ofProblem (.ofFailure failure)).Refuses 500 (some "S5001")
      ("Database query failed: " ++ message) := by
  have code : (Cause.executionFailed message).code = "S5001" := by
    show "S" ++ toString 5001 = "S5001"
    decide
  have refuses := Response.refuses_ofProblem (.ofFailure failure)
  rw [Problem.ofFailure, Failure.message, cause, code] at refuses ⊢
  exact refuses

/-- The exchange of a query that was run answers what the store answered. -/
theorem exchangeOfRun_rowsOf (api : Api) (answer : Except StoreFailure (List Record))
    (query : Query) (calls : List Call) :
    ∃ response, api.exchangeOfRun ⟨api.service.rowsOf answer query, calls⟩ = ⟨response, calls⟩ ∧
      api.Answers (api.service.callOf query) response answer := by
  cases answer with
  | ok rows =>
      cases query with
      | structured predicate =>
          exact ⟨_, rfl, .rows (.findMany _ _ _ rows) (Response.shows_ofRows _ rows)⟩
      | sql statement =>
          have projected := Record.forall₂_isProjection_project api.service.target.projection rows
          exact ⟨_, rfl, .rows (.queryRaw _ projected) (Response.shows_ofRows _ _)⟩
  | error failure =>
      cases query with
      | structured predicate => exact ⟨_, rfl, .failure (refuses_of_executionFailed rfl)⟩
      | sql statement => exact ⟨_, rfl, .failure (refuses_of_executionFailed rfl)⟩

end Compiled

/-! ### What a route makes of a request -/

/-- What a filter route makes of a request as it was received. -/
inductive Api.Outcome (api : Api) (store : Store) :
    Except Problem FilterRequest → Exchange → Prop
  | unread (problem : Problem) :
      Outcome api store (.error problem) (.ofResponse (.ofProblem problem))
  | exceeding {read : FilterRequest} {failure : Failure}
      (exceeded : api.limits.check read.filter = .error failure) :
      Outcome api store (.ok read) (.ofResponse (.ofProblem (.ofFailure failure)))
  | refused {read : FilterRequest} {failure : Failure}
      (within : api.limits.check read.filter = .ok ())
      (refused : api.service.compile read.filter read.mode = .error failure) :
      Outcome api store (.ok read) (.ofResponse (.ofProblem (.ofFailure failure)))
  | executed {read : FilterRequest} {call : Call} {response : Response}
      (admits : api.Admits read) (executes : Executes api.service read call)
      (answers : api.Answers call response (store call)) :
      Outcome api store (.ok read) ⟨response, [call]⟩

variable {api : Api} {store : Store} {read : FilterRequest} {request : Request}

theorem Limits.check_eq_ok_iff (limits : Limits) (filter : Group) :
    limits.check filter = .ok () ↔
      filter.depth ≤ limits.depth ∧ filter.conditionCount ≤ limits.conditions := by
  unfold check
  split_ifs with deep many
  · exact iff_of_false nofun fun within => Nat.not_le_of_lt deep within.1
  · exact iff_of_false nofun fun within => Nat.not_le_of_lt many within.2
  · exact iff_of_true rfl ⟨Nat.le_of_not_lt deep, Nat.le_of_not_lt many⟩

theorem compile_eq_ok_iff (service : Service) (filter : Group) (mode : Mode) (query : Query) :
    service.compile filter mode = .ok query ↔
      Validation.issues service.registry filter = [] ∧
        service.compileValid filter mode = .ok query := by
  unfold Service.compile
  cases Validation.issues service.registry filter with
  | nil => simp
  | cons issue rest => simp

theorem Api.outcome_filter (api : Api) (store : Store)
    (received : Except Problem FilterRequest) :
    api.Outcome store received (api.filter store received) := by
  cases received with
  | error problem => exact .unread problem
  | ok read =>
      unfold Api.filter FilterRequest.check
      dsimp only
      cases within : api.limits.check read.filter with
      | error failure => exact .exceeding within
      | ok _ =>
          unfold Service.filter
          cases compiled : api.service.compile read.filter read.mode with
          | error failure => exact .refused within compiled
          | ok query =>
              obtain ⟨clean, valid⟩ := (compile_eq_ok_iff _ _ _ _).mp compiled
              obtain ⟨depth, count⟩ := (Limits.check_eq_ok_iff _ _).mp within
              have executes := (executes_iff _).mpr ⟨query, valid, rfl⟩
              obtain ⟨response, exchange, answers⟩ := exchangeOfRun_rowsOf api
                (store (api.service.callOf query)) query [api.service.callOf query]
              dsimp only [Except.mapError]
              rw [exchange]
              exact .executed ⟨depth, count, clean⟩ executes answers

/-- What a filter route receives with a request, if it answers the method. -/
def Api.received (api : Api) (request : Request) : Option (Except Problem FilterRequest) :=
  if request.method = "GET" ∨ request.method = "HEAD" then some (queried request)
  else if request.method = "POST" then some (api.posted request)
  else none

theorem handle_eq_answer
    (route : Route.ofPath? api.service.target.entity request.path = some .filter) :
    api.handle store request = api.answer store request .filter := by
  rw [Api.handle, route]

theorem handle_of_not_received
    (route : Route.ofPath? api.service.target.entity request.path = some .filter)
    (refused : api.received request = none) :
    api.handle store request = .ofResponse (.methodRefused Route.filter.allow) := by
  rw [handle_eq_answer route]
  unfold Api.received at refused
  unfold Api.answer
  split_ifs at refused with queried posted
  rw [not_or] at queried
  simp [queried, posted]

/-- The exchange of a request that a filter route answers, whose response may be sent without its
body. -/
theorem handle_of_received
    (route : Route.ofPath? api.service.target.entity request.path = some .filter)
    {received : Except Problem FilterRequest} (given : api.received request = some received) :
    api.handle store request =
      if request.method = "HEAD" then
        ⟨(api.filter store received).response.withoutBody, (api.filter store received).calls⟩
      else api.filter store received := by
  rw [handle_eq_answer route]
  unfold Api.received at given
  unfold Api.answer Api.get
  split_ifs at given with queried posted
  · obtain rfl := Option.some.inj given
    rcases queried with method | method <;> simp [method]
  · obtain rfl := Option.some.inj given
    simp [posted]

/-! ### Payloads -/

/-- What a caller sends to a filter route. -/
inductive Payload
  | body (octets : List UInt8)
  | parameter (text : String)

/-- Whether a request to a filter route sends a payload. -/
inductive Request.Sends (request : Request) : Payload → Prop
  | post (method : request.method = "POST") : Sends request (.body request.body)
  | get (method : request.method = "GET") {text : String}
      (found : filterParameter request.query = .ok (some text)) : Sends request (.parameter text)

/-- Whether a payload is read as a filter request: a body within its limit, and a blank one as the
filter without buckets. -/
inductive Payload.Reads (limits : Limits) : Payload → FilterRequest → Prop
  | blank {octets : List UInt8} (short : octets.length ≤ limits.bodyOctets)
      (blank : octets.all Text.isAsciiBlank = true) : Reads limits (.body octets) {}
  | body {octets : List UInt8} {read : FilterRequest} (short : octets.length ≤ limits.bodyOctets)
      (proper : octets.all Text.isAsciiBlank = false)
      (parsed : FilterRequest.parse (Text.decode octets) = .ok read) :
      Reads limits (.body octets) read
  | parameter {text : String} {read : FilterRequest}
      (parsed : FilterRequest.parse (Text.symbols text) = .ok read) :
      Reads limits (.parameter text) read

theorem ofBody_eq_ok_iff (octets : List UInt8) (read : FilterRequest) :
    FilterRequest.ofBody octets = .ok read ↔
      octets.all Text.isAsciiBlank = true ∧ read = {} ∨
        octets.all Text.isAsciiBlank = false ∧
          FilterRequest.parse (Text.decode octets) = .ok read := by
  unfold FilterRequest.ofBody
  cases octets.all Text.isAsciiBlank with
  | true => simp [eq_comm]
  | false => cases FilterRequest.parse (Text.decode octets) <;> simp

theorem ofParameter_eq_ok_iff (text : String) (read : FilterRequest) :
    FilterRequest.ofParameter (some text) = .ok read ↔
      FilterRequest.parse (Text.symbols text) = .ok read := by
  unfold FilterRequest.ofParameter
  dsimp only
  cases FilterRequest.parse (Text.symbols text) <;> simp

theorem posted_eq_ok_iff (api : Api) (request : Request) (read : FilterRequest) :
    api.posted request = .ok read ↔ (Payload.body request.body).Reads api.limits read := by
  rw [Api.posted, Api.bodyWithin, bind_eq_ok_iff]
  simp only [ofBody_eq_ok_iff]
  constructor
  · rintro ⟨octets, within, reads⟩
    split_ifs at within with long
    obtain rfl := Except.ok.inj within
    rcases reads with ⟨blank, rfl⟩ | ⟨proper, parsed⟩
    · exact .blank (Nat.le_of_not_lt long) blank
    · exact .body (Nat.le_of_not_lt long) proper parsed
  · intro reads
    cases reads with
    | blank short blank => exact ⟨_, if_neg (Nat.not_lt_of_le short), .inl ⟨blank, rfl⟩⟩
    | body short proper parsed =>
        exact ⟨_, if_neg (Nat.not_lt_of_le short), .inr ⟨proper, parsed⟩⟩

/-- A payload is received as the filter request that it is read as. -/
theorem exists_received_of_sends (api : Api) {payload : Payload} (sent : request.Sends payload) :
    ∃ received, api.received request = some received ∧ request.method ≠ "HEAD" ∧
      ∀ read, received = .ok read ↔ payload.Reads api.limits read := by
  cases sent with
  | post method =>
      refine ⟨api.posted request, by simp [Api.received, method], by simp [method], ?_⟩
      exact posted_eq_ok_iff api request
  | @get method text found =>
      refine ⟨Api.queried request, by simp [Api.received, method], by simp [method], ?_⟩
      intro read
      rw [Api.queried, found, ok_bind, ofParameter_eq_ok_iff]
      constructor
      · exact .parameter
      · rintro ⟨⟩
        assumption

/-- Whether a payload leads to a call. -/
def Api.Runs (api : Api) (payload : Payload) (call : Call) : Prop :=
  ∃ read, payload.Reads api.limits read ∧ api.Admits read ∧ Executes api.service read call

theorem Executes.unique {service : Service} {call other : Call}
    (executes : Executes service read call) (others : Executes service read other) :
    call = other := by
  obtain ⟨query, compiled, rfl⟩ := (executes_iff _).mp executes
  obtain ⟨second, again, rfl⟩ := (executes_iff _).mp others
  obtain rfl := Except.ok.inj (compiled.symm.trans again)
  rfl

theorem Executes.compile_eq_ok {call : Call} (executes : Executes api.service read call)
    (admits : api.Admits read) :
    ∃ query, api.service.compile read.filter read.mode = .ok query := by
  obtain ⟨query, compiled, _⟩ := (executes_iff _).mp executes
  exact ⟨query, (compile_eq_ok_iff _ _ _ _).mpr ⟨admits.issues_eq_nil, compiled⟩⟩

/-- An admitted request that compiles makes its call, and the response answers what the store
answered. -/
theorem filter_of_executes (store : Store) {call : Call} (admits : api.Admits read)
    (executes : Executes api.service read call) :
    ∃ response, api.filter store (.ok read) = ⟨response, [call]⟩ ∧
      api.Answers call response (store call) := by
  have outcome := api.outcome_filter store (.ok read)
  generalize api.filter store (.ok read) = exchange at outcome
  cases outcome with
  | exceeding exceeded =>
      rw [(Limits.check_eq_ok_iff _ _).mpr ⟨admits.depth_le, admits.conditionCount_le⟩] at exceeded
      cases exceeded
  | refused _ refused =>
      obtain ⟨query, compiled⟩ := executes.compile_eq_ok admits
      rw [compiled] at refused
      cases refused
  | executed _ others answers =>
      obtain rfl := executes.unique others
      exact ⟨_, rfl, answers⟩

/-- The exchange of a payload that is posted, or sent as the parameter of a query. If it is read, is
within the limits, has no problems and compiles, the store gets exactly one call, made from the
target and from exactly that filter. The response then has status 200 and a body with the rows of
the answer; or status 500 and a body with a code and a message, in which nothing depends on the
request, only on the message of the store's failure. Otherwise the store gets no call. -/
theorem exchange_of_payload (api : Api) (store : Store) (request : Request) (payload : Payload)
    (route : Route.ofPath? api.service.target.entity request.path = some .filter)
    (sent : request.Sends payload) :
    (∀ call, api.Runs payload call →
      (api.handle store request).calls = [call] ∧
      (∀ rows, store call = .ok rows →
        ∃ shown, Shown api.service.target.projection call rows shown ∧
          (api.handle store request).response.Shows api.successMessage shown) ∧
      ∀ failure, store call = .error failure →
        (api.handle store request).response.Refuses 500 (some "S5001")
          ("Database query failed: " ++ failure.message)) ∧
    ((¬ ∃ call, api.Runs payload call) → (api.handle store request).calls = []) := by
  obtain ⟨received, given, method, reads⟩ := exists_received_of_sends api sent
  rw [handle_of_received route given, if_neg method]
  constructor
  · rintro call ⟨read, hread, admits, executes⟩
    obtain rfl := (reads read).mpr hread
    obtain ⟨response, exchange, answers⟩ := filter_of_executes store admits executes
    rw [exchange]
    refine ⟨rfl, ?_, ?_⟩
    · intro rows answer
      rw [answer] at answers
      cases answers with
      | rows projected shows => exact ⟨_, projected, shows⟩
    · intro failure answer
      rw [answer] at answers
      cases answers with
      | failure refuses => exact refuses
  · intro none_runs
    have outcome := api.outcome_filter store received
    generalize api.filter store received = exchange at outcome
    cases outcome with
    | executed admits executes _ =>
        exact absurd ⟨_, _, (reads _).mp rfl, admits, executes⟩ none_runs
    | _ => rfl

/-- The users entity as it is offered to callers. -/
def sampleApi : Api := .ofService ⟨Users.registry, Users.target Users.entity⟩ {}

/-- A filter on ages that is posted with a flag. -/
def samplePost (flag : String) : Request where
  method := "POST"
  path := "/users/filter"
  query := ""
  body := ("\x7b\"and\":[\x7b\"field\":\"age\",\"operator\":\"gt\",\"value\":30\x7d]," ++
    "\"config\":\"" ++ flag ++ "\"\x7d") |>.toUTF8.data.toList

theorem runs_samplePost_sql :
    sampleApi.Runs (.body (samplePost "sql").body)
      (.queryRaw "SELECT * FROM \"users\" WHERE (\"age\" > 30)") := by
  have checked : ((FilterRequest.parse (Text.decode (samplePost "sql").body)).toOption.any
      fun read => decide (read.filter.depth ≤ 8 ∧ read.filter.conditionCount ≤ 100 ∧
        Validation.issues Users.registry read.filter = [] ∧ read.config = some "sql" ∧
        (Sql.statement Users.registry read.filter "users").toOption.any
          (· == "SELECT * FROM \"users\" WHERE (\"age\" > 30)") = true)) = true := by decide +kernel
  obtain ⟨read, parsed, facts⟩ := exists_ok_of_any checked
  obtain ⟨depth, count, clean, flag, compiled⟩ := of_decide_eq_true facts
  obtain ⟨statement, hstatement, same⟩ := exists_ok_of_any compiled
  obtain rfl := eq_of_beq same
  exact ⟨read, .body (by decide +kernel) (by decide +kernel) parsed, ⟨depth, count, clean⟩,
    .sql flag hstatement⟩

theorem runs_samplePost_structured :
    ∃ predicate : Predicate,
      predicate.whereObject.text = "\x7b\"age\":\x7b\"gt\":30\x7d\x7d" ∧
        sampleApi.Runs (.body (samplePost "prisma").body)
          (.findMany "users" predicate Users.publicColumns) := by
  have checked : ((FilterRequest.parse (Text.decode (samplePost "prisma").body)).toOption.any
      fun read => decide (read.filter.depth ≤ 8 ∧ read.filter.conditionCount ≤ 100 ∧
        Validation.issues Users.registry read.filter = [] ∧ read.config ≠ some "sql" ∧
        (Predicate.ofFilter read.filter).toOption.any (fun predicate =>
          predicate.whereObject.text == "\x7b\"age\":\x7b\"gt\":30\x7d\x7d") = true)) = true := by
    decide +kernel
  obtain ⟨read, parsed, facts⟩ := exists_ok_of_any checked
  obtain ⟨depth, count, clean, flag, compiled⟩ := of_decide_eq_true facts
  obtain ⟨predicate, hpredicate, written⟩ := exists_ok_of_any compiled
  exact ⟨predicate, eq_of_beq written, read, .body (by decide +kernel) (by decide +kernel) parsed,
    ⟨depth, count, clean⟩, .structured flag hpredicate⟩

/-- A row with a column that callers of statements do not get. -/
def sampleRow : Record :=
  [("age", .ofInt 41), ("name", .string "Ann"), ("password", .string "secret")]

/-- The exchange of the posted filter if the store has the row. -/
def sampleAnswered (flag : String) : Exchange :=
  sampleApi.handle (fun _ => .ok [sampleRow]) (samplePost flag)

/-- The exchange of the posted filter if the store cannot be reached. -/
def sampleFailed (flag : String) : Exchange :=
  sampleApi.handle (fun _ => .error (.connection "refused")) (samplePost flag)

/-- The statement's rows are shown without the password. The structured query names the columns that
the store is to give, and its rows are shown as the store gave them. A failure is told without the
statement. -/
theorem sample_posted_both_modes :
    Route.ofPath? Users.entity "/users/filter" = some .filter ∧
      ((sampleAnswered "sql").calls =
          [.queryRaw "SELECT * FROM \"users\" WHERE (\"age\" > 30)"] ∧
        (sampleAnswered "sql").response.status = 200 ∧
        (sampleAnswered "sql").response.body =
          "\x7b\"isError\":false,\"body\":\x7b\"message\":\"Users filtered successfully\"," ++
            "\"data\":[\x7b\"age\":41,\"name\":\"Ann\"\x7d]\x7d\x7d" ∧
        Json.parse (sampleAnswered "sql").response.body = .ok (.object
          [("body", .object
            [("data", .array [.object [("age", .ofInt 41), ("name", .string "Ann")]]),
              ("message", .string "Users filtered successfully")]),
            ("isError", .boolean false)])) ∧
      (∃ predicate : Predicate,
        predicate.whereObject.text = "\x7b\"age\":\x7b\"gt\":30\x7d\x7d" ∧
          (sampleAnswered "prisma").calls =
            [.findMany "users" predicate Users.publicColumns] ∧
          (sampleAnswered "prisma").response.status = 200 ∧
          (sampleAnswered "prisma").response.body =
            "\x7b\"isError\":false,\"body\":\x7b\"message\":\"Users filtered successfully\"," ++
              "\"data\":[\x7b\"age\":41,\"name\":\"Ann\",\"password\":\"secret\"\x7d]\x7d\x7d") ∧
      (sampleFailed "sql").response.status = 500 ∧
        (sampleFailed "sql").response.body =
          "\x7b\"isError\":true,\"body\":\x7b\"message\":" ++
            "\"Database query failed: connection error: refused\",\"code\":\"S5001\"\x7d\x7d" := by
  have route : Route.ofPath? Users.entity "/users/filter" = some .filter := by decide +kernel
  have exchange := fun store flag =>
    exchange_of_payload sampleApi store (samplePost flag) (.body _) route (.post rfl)
  refine ⟨route, ?_, ?_, ?_⟩
  · obtain ⟨calls, answered, _⟩ :=
      (exchange (fun _ => .ok [sampleRow]) "sql").1 _ runs_samplePost_sql
    obtain ⟨shown, projected, shows⟩ := answered _ rfl
    cases projected with
    | queryRaw _ each =>
        obtain rfl := Record.eq_of_forall₂_isProjection (by decide) each
          (Record.forall₂_isProjection_project _ _)
        have readable : Json.Readable 125
            (.array [.object [("age", .ofInt 41), ("name", .string "Ann")]]) := by
          refine .array (List.forall_mem_singleton.mpr (.object (by decide) ?_))
          exact List.forall_mem_cons.mpr
            ⟨.number ⟨by decide, by decide⟩, List.forall_mem_singleton.mpr (.string "Ann")⟩
        exact ⟨calls, shows.status_eq, shows.body_eq.trans (by decide +kernel),
          shows.parse_eq readable (by decide)⟩
  · obtain ⟨predicate, written, runs⟩ := runs_samplePost_structured
    obtain ⟨calls, answered, _⟩ := (exchange (fun _ => .ok [sampleRow]) "prisma").1 _ runs
    obtain ⟨shown, projected, shows⟩ := answered _ rfl
    cases projected with
    | findMany =>
        exact ⟨predicate, written, calls, shows.status_eq, shows.body_eq.trans (by decide +kernel)⟩
  · obtain ⟨_, _, failed⟩ :=
      (exchange (fun _ => .error (.connection "refused")) "sql").1 _ runs_samplePost_sql
    have refuses := failed _ rfl
    exact ⟨refuses.status_eq, refuses.body_eq.trans (by decide +kernel)⟩

end RowFilter.Http
