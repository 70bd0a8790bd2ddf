import RowFilter.Proofs.Postgres.Binding
import RowFilter.Proofs.Postgres.Steps
import RowFilter.Proofs.Predicate.Shapes

/-!
# Statements and the shapes of predicates

The statement of a structured query depends on the shape of its predicate alone, so no value gets
into the text of a statement. A connection prepares a statement once, hence one for each shape: when
a query has succeeded, a query of the same shape on the connection sends nothing to prepare.
-/

namespace RowFilter.Postgres

open RowFilter.Filter

/-- Predicates of the same shape are selected by the same statement, with as many parameters as one
another. -/
theorem select_eq_of_sameShape {predicate other : Predicate} (same : predicate.SameShape other)
    (entity : String) (projection : List String) :
    (select entity predicate projection).1 = (select entity other projection).1 ∧
      (select entity predicate projection).2.length =
        (select entity other projection).2.length := by
  have sql := same.toSql_eq 0
  constructor
  · unfold select
    rw [same.isAlways_eq]
    cases other.isAlways with
    | true => rfl
    | false => exact congrArg (_ ++ " WHERE " ++ ·) sql.1
  · rw [select_values, select_values]
    exact sql.2

namespace Session

variable {server : Server} {settings : ConnectionSettings} {sql : String}

/-! ### Structured queries -/

variable {entity : String} {predicate other : Predicate} {projection : List String}

theorem findMany_eq :
    findMany server settings entity predicate projection = (do
      let connection ← acquire server settings
      let prepared ← prepareOnce server connection (select entity predicate projection).1
      let parameters ←
        Parameter.bindAll (select entity predicate projection).2 prepared.parameters
      let rows ← execute server (select entity predicate projection).1
        (parameters.map Parameter.octets?)
      recordsOf prepared.columns rows) :=
  rfl

variable {connection : Option Connection}

/-- When a query has succeeded, the connection has prepared its statement. -/
theorem hasPrepared_of_findMany {left : Option Connection} {traffic : Traffic}
    {records : List Record}
    (got : run (findMany server settings entity predicate projection) connection =
      (.ok records, left, traffic)) :
    HasPrepared (select entity predicate projection).1 left := by
  rw [findMany_eq] at got
  obtain ⟨connection, acquiredIn, first, got⟩ := outcome_bind_eq_ok_iff.mp got
  obtain ⟨prepared, preparedIn, second, got⟩ := outcome_bind_eq_ok_iff.mp got
  obtain ⟨parameters, boundIn, third, got⟩ := outcome_bind_eq_ok_iff.mp got
  obtain ⟨rows, executedIn, fourth, got⟩ := outcome_bind_eq_ok_iff.mp got
  obtain ⟨there, live⟩ := acquired first
  have ready := hasPrepared_of_prepareOnce live there second
  rw [outcome_lift, Prod.mk.injEq] at third got
  have same := connection_of_execute fourth
  rw [got.2, ← third.2] at same
  rwa [← same] at ready

/-- What is left to do with a prepared statement prepares nothing. -/
theorem statements_executePrepared (values : List Value) (prepared : Prepared)
    (state : Option Connection × Traffic) :
    (outcome (do
      let parameters ← Parameter.bindAll values prepared.parameters
      let rows ← execute server sql (parameters.map Parameter.octets?)
      recordsOf prepared.columns rows) state).2.2.statements = state.2.statements := by
  refine leaves_bind (P := (·.2.statements = state.2.statements)) rfl ?_
  intro parameters boundIn bound
  rw [outcome_lift] at bound
  obtain ⟨_, rfl⟩ := Prod.mk.inj bound
  refine leaves_bind (P := (·.2.statements = state.2.statements)) (statements_execute _ _) ?_
  intro rows between executed
  have kept : (outcome (execute server sql (parameters.map Parameter.octets?))
      state).2.2.statements = state.2.statements := statements_execute _ state
  rwa [executed] at kept

/-- A query sends nothing to prepare but its own statement. -/
theorem statements_findMany :
    ∀ sent ∈ (run (findMany server settings entity predicate projection)
      connection).2.2.statements, sent = (select entity predicate projection).1 := by
  rw [findMany_eq]
  have before : OnlyPrepares (select entity predicate projection).1
      (outcome (acquire server settings) (connection, {})).2 :=
    onlyPrepares_acquire (List.forall_mem_nil _)
  refine leaves_bind before fun live acquiredIn first => ?_
  rw [first] at before
  have prepares : OnlyPrepares (select entity predicate projection).1 (outcome (prepareOnce server
      live (select entity predicate projection).1) acquiredIn).2 :=
    onlyPrepares_prepareOnce live before
  refine leaves_bind prepares fun prepared preparedIn second => ?_
  rw [second] at prepares
  rwa [OnlyPrepares, statements_executePrepared]

/-- A query whose statement the connection has prepared sends nothing to prepare. -/
theorem statements_findMany_of_hasPrepared
    (ready : HasPrepared (select entity predicate projection).1 connection) :
    (run (findMany server settings entity predicate projection)
      connection).2.2.statements = [] := by
  obtain ⟨live, prepared, rfl, notLost, known⟩ := ready
  change (outcome (findMany server settings entity predicate projection)
    (some live, {})).2.2.statements = _
  rw [findMany_eq, outcome_bind, acquire_live notLost]
  dsimp only
  rw [outcome_bind, prepareOnce_known known]
  exact statements_executePrepared _ prepared _

end Session

/-- The text of a predicate with placeholders after any number, and its statement for any entity and
columns, depend on the shape of the predicate alone, and so does the number of parameters. So all
queries of one shape send one statement to prepare, and none once a query of the shape has
succeeded. -/
theorem statement_eq_of_sameShape {predicate other : Predicate} (same : predicate.SameShape other) :
    (∀ offset, (predicate.toSql offset).1 = (other.toSql offset).1 ∧
      (predicate.toSql offset).2.length = (other.toSql offset).2.length) ∧
    (∀ entity projection,
      (select entity predicate projection).1 = (select entity other projection).1 ∧
        (select entity predicate projection).2.length =
          (select entity other projection).2.length) ∧
    ∀ server settings entity projection connection,
      (∀ sent ∈ (Session.run (Session.findMany server settings entity other projection)
        connection).2.2.statements, sent = (select entity predicate projection).1) ∧
      ∀ records after traffic,
        Session.run (Session.findMany server settings entity predicate projection) connection =
          (.ok records, after, traffic) →
        (Session.run (Session.findMany server settings entity other projection)
          after).2.2.statements = [] := by
  refine ⟨same.toSql_eq, select_eq_of_sameShape same, ?_⟩
  intro server settings entity projection connection
  rw [(select_eq_of_sameShape same entity projection).1]
  refine ⟨Session.statements_findMany, fun records after traffic got => ?_⟩
  have ready := Session.hasPrepared_of_findMany got
  rw [(select_eq_of_sameShape same entity projection).1] at ready
  exact Session.statements_findMany_of_hasPrepared ready

/-- People without a name in one of two roles, or older than thirty, whose email contains a text. -/
def sampleQuery : Predicate :=
  .all [.any [.all [.compare "name" .equal .null, .member "role" [.text "ADMIN", .text "USER"]],
    .compare "age" .greater (.integer 30)], .search "email" .anywhere "example"]

/-- The same with other values, one of which looks like a part of a statement. -/
def sampleSimilar : Predicate :=
  .all [.any [.all [.compare "name" .equal .null, .member "role" [.null, .text "') OR TRUE --"]],
    .compare "age" .greater .null], .search "email" .anywhere "$1"]

/-- A server that takes every parameter as a text and finds nothing. -/
def sampleServer : Server where
  connect _ := .ok ()
  prepare _ := .ok ⟨[.text .text, .text .text, .text .text, .text .text], []⟩
  execute _ _ := .rows []

/-- The settings of a connection to it. -/
def sampleSettings : ConnectionSettings :=
  ⟨"localhost", 5432, "app", "postgres", none, 10000, none, none⟩

/-- The first query on a new connection. -/
def sampleRun : Except Problem (List Record) × Option Connection × Traffic :=
  Session.run (Session.findMany sampleServer sampleSettings "users" sampleQuery ["id"]) none

/-- Both queries have one statement, which is prepared for the first and not again for the
second. -/
theorem sample_prepared_once :
    sampleQuery.SameShape sampleSimilar ∧
      (sampleQuery.toSql 2).1 = (sampleSimilar.toSql 2).1 ∧
      (select "users" sampleQuery ["id"]).1 = (select "users" sampleSimilar ["id"]).1 ∧
      sampleRun.1.toOption.any List.isEmpty = true ∧ sampleRun.2.2.statements.length = 1 ∧
      (Session.run (Session.findMany sampleServer sampleSettings "users" sampleSimilar ["id"])
        sampleRun.2.1).2.2.statements = [] := by
  have roles : (Predicate.all [.compare "name" .equal .null,
      .member "role" [.text "ADMIN", .text "USER"]]).SameShape
        (.all [.compare "name" .equal .null, .member "role" [.null, .text "') OR TRUE --"]]) :=
    .all (.cons (.compare fun _ => rfl) (.cons (.member rfl) .nil))
  have older : (Predicate.compare "age" .greater (.integer 30)).SameShape
      (.compare "age" .greater .null) :=
    .compare nofun
  have same : sampleQuery.SameShape sampleSimilar :=
    .all (.cons (.any (.cons roles (.cons older .nil))) (.cons .search .nil))
  have answered : sampleRun.1.toOption.any List.isEmpty = true := by decide +kernel
  obtain ⟨texts, statements, sessions⟩ := statement_eq_of_sameShape same
  refine ⟨same, (texts 2).1, (statements "users" ["id"]).1, answered, by decide +kernel, ?_⟩
  obtain ⟨_, once⟩ := sessions sampleServer sampleSettings "users" ["id"] none
  obtain ⟨records, ok, _⟩ := exists_ok_of_any answered
  have whole : sampleRun = (.ok records, sampleRun.2.1, sampleRun.2.2) := by rw [← ok]
  exact once records sampleRun.2.1 sampleRun.2.2 whole

end RowFilter.Postgres
