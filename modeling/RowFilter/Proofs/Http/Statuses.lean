import RowFilter.Proofs.Http.Exchanges
import RowFilter.Proofs.Sql.StatementFailures

/-!
# Statuses of the filter routes

The status of a response says whose fault it was. What cannot be read, exceeds a limit or has
problems is the caller's. A failure of the store is not, and neither is what the compilers turn down
after validation has let it through: a list where an operator needs a single value. That filter
never reaches the store, and its response is that of an internal failure all the same.
-/

namespace RowFilter.Http

open RowFilter.Filter

variable {api : Api} {store : Store} {request : Request} {problem : Problem}

/-! ### What cannot be read -/

theorem status_of_ofBody {octets : List UInt8}
    (unread : FilterRequest.ofBody octets = .error problem) : problem.status = 400 := by
  unfold FilterRequest.ofBody at unread
  split at unread
  · cases unread
  · split at unread
    · cases unread
    · cases unread
      rfl

theorem status_of_posted (unread : api.posted request = .error problem) :
    problem.status = 400 ∨ problem.status = 413 := by
  unfold Api.posted Api.bodyWithin at unread
  split at unread
  · cases unread
    exact .inr rfl
  · exact .inl (status_of_ofBody unread)

theorem status_of_ofParameter {parameter : Option String}
    (unread : FilterRequest.ofParameter parameter = .error problem) : problem.status = 400 := by
  unfold FilterRequest.ofParameter at unread
  split at unread
  · cases unread
    rfl
  · split at unread
    · cases unread
    · cases unread
      rfl

theorem status_of_filterParameter {query : String}
    (unread : filterParameter query = .error problem) : problem.status = 400 := by
  unfold filterParameter at unread
  split at unread
  · cases unread
  · cases unread
  · cases unread
    rfl

theorem status_of_queried (unread : Api.queried request = .error problem) :
    problem.status = 400 := by
  unfold Api.queried at unread
  cases parameter : filterParameter request.query with
  | ok parameter =>
      rw [parameter] at unread
      exact status_of_ofParameter unread
  | error other =>
      rw [parameter] at unread
      obtain rfl := Except.error.inj unread
      exact status_of_filterParameter parameter

theorem status_of_unread (unread : api.received request = some (.error problem)) :
    problem.status = 400 ∨ problem.status = 413 := by
  unfold Api.received at unread
  split_ifs at unread
  · exact .inl (status_of_queried (Option.some.inj unread))
  · exact status_of_posted (Option.some.inj unread)

theorem status_of_exceeding {limits : Limits} {filter : Group} {failure : Failure}
    (exceeded : limits.check filter = .error failure) :
    (Problem.ofFailure failure).status = 400 := by
  unfold Limits.check at exceeded
  split_ifs at exceeded
  · cases exceeded
    rfl
  · cases exceeded
    rfl

/-! ### What a service turns down -/

/-- In either mode a filter without problems fails as its predicate does. -/
theorem failure?_compileValid (service : Service) {filter : Group}
    (clean : Validation.issues service.registry filter = []) (mode : Mode) :
    failure? (service.compileValid filter mode) = failure? (Predicate.ofFilter filter) := by
  cases mode with
  | structured => exact failure?_map _ _
  | sql => exact (failure?_map _ _).trans (Sql.failure?_statement_of_clean clean _)

/-- A service turns a filter down for its problems, or for a list where a single value is needed. -/
theorem compile_eq_error {service : Service} {filter : Group} {mode : Mode} {failure : Failure}
    (refused : service.compile filter mode = .error failure) :
    (Validation.issues service.registry filter ≠ [] ∧ (Problem.ofFailure failure).status = 400) ∨
      Validation.issues service.registry filter = [] ∧
        ∃ condition ∈ filter.conditions, condition.ListForSingle ∧
          failure = condition.listFailure := by
  unfold Service.compile at refused
  split at refused
  · rename_i clean
    refine .inr ⟨clean, ?_⟩
    rw [← failure?_eq_some_iff, failure?_compileValid service clean,
      failure?_eq_some_iff] at refused
    obtain ⟨before, condition, after, split, _, listed, same⟩ :=
      Sql.first_listForSingle_of_failure clean refused
    exact ⟨condition, by rw [split]; simp, listed, same.symm⟩
  · rename_i problems
    cases refused
    exact .inl ⟨problems, rfl⟩

/-- No query is compiled from a filter with a list where an operator needs a single value. -/
theorem not_listForSingle_of_compile {service : Service} {filter : Group} {mode : Mode}
    {query : Query} (compiled : service.compile filter mode = .ok query) :
    ¬ ∃ condition ∈ filter.conditions, condition.ListForSingle := by
  rintro ⟨condition, member, listed⟩
  obtain ⟨clean, valid⟩ := (compile_eq_ok_iff _ _ _ _).mp compiled
  have own : Validation.conditionIssues service.registry condition = [] := by
    rw [Validation.issues_eq_flatMap, List.flatMap_eq_nil_iff] at clean
    exact clean condition member
  obtain ⟨failure, failed⟩ := Sql.failure_of_listForSingle member own listed
  have alike := failure?_compileValid service clean mode
  rw [valid, failed] at alike
  cases alike

/-! ### Statuses -/

/-- Whether a request is read, is within the limits and has no problems, but has a list where an
operator needs a single value. -/
def Api.TurnsDownLate (api : Api) (request : Request) : Prop :=
  ∃ read, api.received request = some (.ok read) ∧ api.Admits read ∧
    ∃ condition ∈ read.filter.conditions, condition.ListForSingle

/-- Whom a response blames: the caller, the library for what it turns down late, the store, or
nobody. -/
inductive Blames (store : Store) (late : Prop) (exchange : Exchange) : Prop
  | caller (calls : exchange.calls = []) (early : ¬ late)
      (status : 400 ≤ exchange.response.status ∧ exchange.response.status < 500)
  | library (calls : exchange.calls = []) (late : late) (status : exchange.response.status = 500)
  | store {call : Call} {failure : StoreFailure} (calls : exchange.calls = [call])
      (failed : store call = .error failure) (early : ¬ late)
      (status : exchange.response.status = 500)
  | nobody {call : Call} {rows : List Record} (calls : exchange.calls = [call])
      (answered : store call = .ok rows) (early : ¬ late)
      (status : exchange.response.status = 200)

theorem turnsDownLate_iff {received : Except Problem FilterRequest}
    (given : api.received request = some received) :
    api.TurnsDownLate request ↔ ∃ read, received = .ok read ∧ api.Admits read ∧
      ∃ condition ∈ read.filter.conditions, condition.ListForSingle := by
  simp only [Api.TurnsDownLate, given, Option.some.injEq]

theorem blames_filter (store : Store) {received : Except Problem FilterRequest}
    (given : api.received request = some received) :
    Blames store (api.TurnsDownLate request) (api.filter store received) := by
  have late_iff := turnsDownLate_iff given
  have outcome := api.outcome_filter store received
  generalize api.filter store received = exchange at outcome
  cases outcome with
  | unread problem =>
      refine .caller rfl ?_ (?_ : 400 ≤ problem.status ∧ problem.status < 500)
      · intro late
        obtain ⟨_, ⟨⟩, _⟩ := late_iff.mp late
      · rcases status_of_unread given with status | status <;> omega
  | @exceeding read failure exceeded =>
      have status := status_of_exceeding exceeded
      refine .caller rfl ?_ (?_ : 400 ≤ (Problem.ofFailure failure).status ∧
        (Problem.ofFailure failure).status < 500)
      · intro late
        obtain ⟨_, ⟨⟩, admits, _⟩ := late_iff.mp late
        rw [(Limits.check_eq_ok_iff _ _).mpr ⟨admits.depth_le, admits.conditionCount_le⟩]
          at exceeded
        cases exceeded
      · omega
  | @refused read failure within refused =>
      obtain ⟨depth, count⟩ := (Limits.check_eq_ok_iff _ _).mp within
      rcases compile_eq_error refused with
        ⟨problems, status⟩ | ⟨clean, condition, member, listed, rfl⟩
      · refine .caller rfl ?_ (?_ : 400 ≤ (Problem.ofFailure failure).status ∧
          (Problem.ofFailure failure).status < 500)
        · intro late
          obtain ⟨_, ⟨⟩, admits, _⟩ := late_iff.mp late
          exact problems admits.issues_eq_nil
        · omega
      · refine .library rfl (late_iff.mpr ?_) rfl
        exact ⟨read, rfl, ⟨depth, count, clean⟩, condition, member, listed⟩
  | @executed read call response admits executes answers =>
      have early : ¬ api.TurnsDownLate request := by
        intro late
        obtain ⟨_, ⟨⟩, _, listed⟩ := late_iff.mp late
        obtain ⟨query, compiled⟩ := executes.compile_eq_ok admits
        exact not_listForSingle_of_compile compiled listed
      generalize answer : store call = answered at answers
      cases answers with
      | rows _ shows => exact .nobody rfl answer early shows.status_eq
      | failure refuses => exact .store rfl answer early refuses.status_eq

theorem blames_handle (store : Store)
    (route : Route.ofPath? api.service.target.entity request.path = some .filter) :
    Blames store (api.TurnsDownLate request) (api.handle store request) := by
  cases given : api.received request with
  | none =>
      rw [handle_of_not_received route given]
      refine .caller rfl ?_ ⟨by decide, by decide⟩
      rintro ⟨read, received, _⟩
      rw [given] at received
      cases received
  | some received =>
      rw [handle_of_received route given]
      split_ifs
      · -- Leaving out the body keeps the calls and the status.
        cases blames_filter store given with
        | caller calls early status => exact .caller calls early status
        | library calls late status => exact .library calls late status
        | store calls failed early status => exact .store calls failed early status
        | nobody calls answered early status => exact .nobody calls answered early status
      · exact blames_filter store given

/-- A response of a filter route has a status of 500 or more exactly if the store was called and
failed, or the request passed validation with a list where an operator needs a single value. The
latter makes no call and has status 500, and so is the one failure before a call that does not blame
the caller. -/
theorem server_error_iff (api : Api) (store : Store) (request : Request)
    (route : Route.ofPath? api.service.target.entity request.path = some .filter) :
    (500 ≤ (api.handle store request).response.status ↔
      (∃ call failure, (api.handle store request).calls = [call] ∧ store call = .error failure) ∨
        api.TurnsDownLate request) ∧
    (api.TurnsDownLate request →
      (api.handle store request).calls = [] ∧ (api.handle store request).response.status = 500) ∧
    ((api.handle store request).calls = [] → ¬ api.TurnsDownLate request →
      400 ≤ (api.handle store request).response.status ∧
        (api.handle store request).response.status < 500) := by
  cases blames_handle store route with
  | caller calls early status => simp [calls, early, status]
  | library calls late status => simp [calls, late, status]
  | store calls failed early status => simp [calls, failed, early, status]
  | nobody calls answered early status => simp [calls, answered, early, status]

/-- A query without a filter. -/
def sampleGet : Request := ⟨"GET", "/filter", "filter=nope", []⟩

/-- A parameter that is no document is the caller's fault. -/
theorem sample_parameter_refused :
    Route.ofPath? Users.entity sampleGet.path = some .filter ∧
      (sampleApi.handle (fun _ => .ok []) sampleGet).calls = [] ∧
      ¬ sampleApi.TurnsDownLate sampleGet ∧
      400 ≤ (sampleApi.handle (fun _ => .ok []) sampleGet).response.status ∧
      (sampleApi.handle (fun _ => .ok []) sampleGet).response.status < 500 := by
  have route : Route.ofPath? Users.entity sampleGet.path = some .filter := by decide +kernel
  have calls : (sampleApi.handle (fun _ => .ok []) sampleGet).calls = [] :=
    List.length_eq_zero_iff.mp (by decide +kernel)
  have unread : ((sampleApi.received sampleGet).any fun read => read.toOption.isSome) = false := by
    decide +kernel
  have early : ¬ sampleApi.TurnsDownLate sampleGet := by
    rintro ⟨read, received, _⟩
    simp [received, Except.toOption] at unread
  obtain ⟨_, _, refused⟩ := server_error_iff sampleApi (fun _ => .ok []) sampleGet route
  exact ⟨route, calls, early, refused calls early⟩

/-- A posted filter with a list of ages where one age is needed. -/
def sampleLate : Request where
  method := "POST"
  path := "/filter"
  query := ""
  body := "\x7b\"and\":[\x7b\"field\":\"age\",\"operator\":\"gt\",\"value\":[30]\x7d]\x7d"
    |>.toUTF8.data.toList

/-- The response has status 500, and the store, which would have answered, was not called. -/
theorem sample_list_blames_library :
    Route.ofPath? Users.entity sampleLate.path = some .filter ∧
      (sampleApi.handle (fun _ => .ok []) sampleLate).response.status = 500 ∧
      (sampleApi.handle (fun _ => .ok []) sampleLate).calls = [] :=
  ⟨by decide +kernel, by decide +kernel, List.length_eq_zero_iff.mp (by decide +kernel)⟩

end RowFilter.Http
