import Mathlib.Data.List.Basic
import RowFilter.Postgres.Session

/-!
# Steps of a session

What a step gives in a state, and the state that it leaves: of each way of putting steps together,
and of the steps of which calls consist. A connection that is acquired is live; what it has prepared
is not prepared again; an execution that gives rows leaves the connection as it was.
-/

namespace RowFilter.Postgres.Session

variable {server : Server} {settings : ConnectionSettings} {sql : String}

/-! ### What steps give and leave -/

/-- What a step gives in a state, and the state that it leaves. -/
def outcome {α : Type} (step : Step α) (state : Option Connection × Traffic) :
    Except Problem α × Option Connection × Traffic :=
  step.run.run state

variable {state after : Option Connection × Traffic}

/-- A step is followed by the next in the state that it leaves, unless it fails. -/
@[simp]
theorem outcome_bind {α β : Type} (step : Step α) (next : α → Step β)
    (state : Option Connection × Traffic) :
    outcome (step >>= next) state =
      match outcome step state with
      | (.ok a, between) => outcome (next a) between
      | (.error problem, between) => (.error problem, between) := by
  simp only [outcome, ExceptT.run_bind, StateT.run_bind]
  rcases StateT.run (ExceptT.run step) state with ⟨_ | _, _⟩ <;> rfl

theorem outcome_bind_eq_ok_iff {α β : Type} {step : Step α} {next : α → Step β} {b : β} :
    outcome (step >>= next) state = (.ok b, after) ↔
      ∃ a between, outcome step state = (.ok a, between) ∧
        outcome (next a) between = (.ok b, after) := by
  rw [outcome_bind]
  constructor
  · intro given
    split at given
    · exact ⟨_, _, ‹_›, given⟩
    · cases given
  · rintro ⟨a, between, first, second⟩
    rw [first]
    exact second

/-- What holds of the state that a step leaves, and of the one that the next leaves if the step
succeeds, holds of the state that the two leave. -/
theorem leaves_bind {α β : Type} {step : Step α} {next : α → Step β}
    {P : Option Connection × Traffic → Prop} (first : P (outcome step state).2)
    (second : ∀ a between, outcome step state = (.ok a, between) →
      P (outcome (next a) between).2) :
    P (outcome (step >>= next) state).2 := by
  rw [outcome_bind]
  split
  · exact second _ _ ‹_›
  · rename_i failed
    rwa [failed] at first

@[simp]
theorem outcome_pure {α : Type} (a : α) (state : Option Connection × Traffic) :
    outcome (pure a) state = (.ok a, state) := rfl

@[simp]
theorem outcome_throw {α : Type} (problem : Problem) (state : Option Connection × Traffic) :
    outcome (throw problem : Step α) state = (.error problem, state) := rfl

@[simp]
theorem outcome_lift {α : Type} (result : Except Problem α)
    (state : Option Connection × Traffic) :
    outcome (liftM result : Step α) state = (result, state) := rfl

@[simp]
theorem outcome_get (state : Option Connection × Traffic) :
    outcome get state = (.ok state, state) := rfl

@[simp]
theorem outcome_sent (note : Traffic → Traffic) (state : Option Connection × Traffic) :
    outcome (sent note) state = (.ok (), state.1, note state.2) := rfl

@[simp]
theorem outcome_keep (connection : Option Connection) (state : Option Connection × Traffic) :
    outcome (keep connection) state = (.ok (), connection, state.2) := rfl

/-! ### Connections -/

/-- The connection that is acquired is there afterwards, and it is live. -/
theorem acquired {connection : Connection}
    (got : outcome (acquire server settings) state = (.ok connection, after)) :
    after.1 = some connection ∧ connection.lost = false := by
  obtain ⟨current, _, ⟨⟩, got⟩ := outcome_bind_eq_ok_iff.mp got
  split at got
  · rename_i live found
    obtain ⟨given, notLost⟩ := Option.filter_eq_some_iff.mp found
    obtain ⟨rfl, rfl⟩ : live = connection ∧ state = after := by simpa using got
    exact ⟨given, by simpa using notLost⟩
  · simp only [outcome_bind, outcome_keep] at got
    split at got
    · simp only [outcome_bind, outcome_sent, outcome_keep, outcome_pure, Prod.mk.injEq,
        Except.ok.injEq] at got
      obtain ⟨rfl, rfl⟩ := got
      exact ⟨rfl, rfl⟩
    · simp at got
    · simp at got

/-- A live connection is acquired as it is. -/
theorem acquire_live {connection : Connection} (live : connection.lost = false)
    (traffic : Traffic) :
    outcome (acquire server settings) (some connection, traffic) =
      (.ok connection, some connection, traffic) := by
  simp [acquire, Option.filter, live]

/-- To acquire a connection prepares nothing. -/
theorem statements_acquire (state : Option Connection × Traffic) :
    (outcome (acquire server settings) state).2.2.statements = state.2.statements := by
  simp only [acquire, outcome_bind, outcome_get]
  split
  · rfl
  · simp only [outcome_bind, outcome_keep]
    split <;>
      simp only [outcome_bind, outcome_sent, outcome_keep, outcome_pure, outcome_throw]

/-! ### Prepared statements -/

/-- Whether there is a live connection that has prepared a statement. -/
def HasPrepared (sql : String) (connection : Option Connection) : Prop :=
  ∃ live prepared, connection = some live ∧ live.lost = false ∧
    live.prepared.lookup sql = some prepared

/-- Whether nothing was sent to prepare but one statement. -/
def OnlyPrepares (sql : String) (state : Option Connection × Traffic) : Prop :=
  ∀ sent ∈ state.2.statements, sent = sql

theorem onlyPrepares_acquire (only : OnlyPrepares sql state) :
    OnlyPrepares sql (outcome (acquire server settings) state).2 := by
  rwa [OnlyPrepares, statements_acquire]

theorem onlyPrepares_prepare (only : OnlyPrepares sql state) :
    OnlyPrepares sql (outcome (prepare server sql) state).2 := by
  unfold prepare
  split_ifs
  · exact only
  · have added : OnlyPrepares sql
        (state.1, { state.2 with statements := state.2.statements ++ [sql] }) :=
      List.forall_mem_append.mpr ⟨only, List.forall_mem_singleton.mpr rfl⟩
    simp only [outcome_bind, outcome_sent]
    split <;> exact added

theorem onlyPrepares_prepareOnce (connection : Connection) (only : OnlyPrepares sql state) :
    OnlyPrepares sql (outcome (prepareOnce server connection sql) state).2 := by
  unfold prepareOnce
  split
  · exact only
  · have prepares : OnlyPrepares sql (outcome (prepare server sql) state).2 :=
      onlyPrepares_prepare only
    refine leaves_bind prepares fun prepared between first => ?_
    rwa [first] at prepares

/-- A statement that a connection has prepared is not prepared again. -/
theorem prepareOnce_known {connection : Connection} {prepared : Prepared}
    (known : connection.prepared.lookup sql = some prepared)
    (state : Option Connection × Traffic) :
    outcome (prepareOnce server connection sql) state = (.ok prepared, state) := by
  simp [prepareOnce, known]

/-- When a statement is to be prepared once, the connection has prepared it afterwards. -/
theorem hasPrepared_of_prepareOnce {connection : Connection} (live : connection.lost = false)
    {prepared : Prepared} (there : state.1 = some connection)
    (got : outcome (prepareOnce server connection sql) state = (.ok prepared, after)) :
    HasPrepared sql after.1 := by
  unfold prepareOnce at got
  split at got
  · rename_i known found
    obtain ⟨rfl, rfl⟩ : known = prepared ∧ state = after := by simpa using got
    exact ⟨connection, known, there, live, found⟩
  · obtain ⟨made, between, _, kept⟩ := outcome_bind_eq_ok_iff.mp got
    simp only [outcome_bind, outcome_keep, outcome_pure, Prod.mk.injEq] at kept
    obtain ⟨_, rfl⟩ := kept
    exact ⟨_, made, rfl, live, List.lookup_cons_self⟩

/-! ### Executions -/

/-- An execution that gives rows leaves the connection as it is. -/
theorem connection_of_execute {parameters : List (Option (List UInt8))} {rows : List WireRow}
    (got : outcome (execute server sql parameters) state = (.ok rows, after)) :
    after.1 = state.1 := by
  simp only [execute, outcome_bind, outcome_sent] at got
  split at got
  · simp only [outcome_pure, Prod.mk.injEq] at got
    rw [← got.2]
  · simp at got
  · simp at got

/-- An execution prepares nothing. -/
theorem statements_execute (parameters : List (Option (List UInt8)))
    (state : Option Connection × Traffic) :
    (outcome (execute server sql parameters) state).2.2.statements = state.2.statements := by
  simp only [execute, outcome_bind, outcome_sent]
  split <;> simp

end RowFilter.Postgres.Session
