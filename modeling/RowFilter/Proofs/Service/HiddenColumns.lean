import Mathlib.Data.Option.Basic
import RowFilter.Proofs.Json.Records
import RowFilter.Proofs.Predicate.Leaves
import RowFilter.Proofs.Store.Projections
import RowFilter.Proofs.Validation.Acceptance
import RowFilter.Service
import RowFilter.Store.Tables

/-!
# Hidden columns

What a caller learns from a service over tables in memory depends only on visible columns: those
that callers get, and those that the schema lets stand in a filter. Two stores that differ only in
other columns, such as a password, give the same answer to every filter. A condition on a hidden
column does not get past validation, the predicate tests no other columns than those of the
conditions, and the projection lets no hidden column out.
-/

namespace RowFilter

open RowFilter.Filter RowFilter.Schema

namespace Service

/-- Whether a column is visible: callers get it, or it is a filterable field of the schema. -/
def Visible (service : Service) (name : String) : Prop :=
  name ∈ service.target.projection ∨
    ∃ field, service.registry.find? name = some field ∧ field.filterable = true

/-- Whether two stored rows differ in hidden columns only. -/
structure SameVisible (service : Service) (row other : Record) : Prop where
  /-- The first row is a record. -/
  ordered : row.IsOrdered
  /-- The second row is a record. -/
  otherOrdered : other.IsOrdered
  /-- Every visible column has the same value in both, or is missing from both. -/
  lookup_eq : ∀ name, service.Visible name → row.lookup name = other.lookup name

variable {service : Service}

/-- A filter that a service compiles has no problems. -/
theorem issues_eq_nil_of_compile {filter : Group} {mode : Mode} {query : Query}
    (compiled : service.compile filter mode = .ok query) :
    Validation.issues service.registry filter = [] := by
  rw [compile] at compiled
  split at compiled
  · assumption
  · cases compiled

/-- The predicate that a service compiles tests visible columns only. -/
theorem visible_of_mem_leaves {filter : Group} {mode : Mode} {predicate : Predicate}
    (compiled : service.compile filter mode = .ok (.structured predicate)) :
    ∀ test ∈ predicate.leaves, ∀ name ∈ test.field?, service.Visible name := by
  have clean := issues_eq_nil_of_compile compiled
  have compiledPredicate : Predicate.ofFilter filter = .ok predicate := by
    rw [compile, clean] at compiled
    cases mode with
    | structured =>
        obtain ⟨found, hfound, same⟩ := (map_eq_ok_iff _ _ _).mp compiled
        rw [hfound, Query.structured.inj same]
    | sql =>
        obtain ⟨_, _, different⟩ := (map_eq_ok_iff _ _ _).mp compiled
        cases different
  intro test htest name hname
  obtain ⟨condition, member, tested, htested, inTested⟩ :=
    Predicate.mem_leaves_ofFilter compiledPredicate test htest
  have named := Predicate.field?_of_mem_leaves_ofCondition htested test inTested
  obtain rfl : condition.field = name := Option.some.inj (named.symm.trans hname)
  exact .inr (Validation.filterable_of_issues clean condition member)

/-- Rows that differ in hidden columns only are projected to the same record. -/
theorem project_eq_of_sameVisible (projected : service.target.projection ≠ []) {row other : Record}
    (same : service.SameVisible row other) :
    project service.target.projection row = project service.target.projection other := by
  have left := Record.isProjection_project service.target.projection row
  have right := Record.isProjection_project service.target.projection other
  apply Record.eq_of_lookup_eq (same.ordered.sublist left.sublist)
    (same.otherOrdered.sublist right.sublist)
  intro name
  rw [left.lookup_eq, right.lookup_eq]
  split
  · rename_i shown
    exact same.lookup_eq name (.inl (shown.resolve_left projected))
  · rfl

/-- A predicate over visible columns selects the same from tables that differ in hidden columns
only. -/
theorem select_eq_of_sameVisible (projected : service.target.projection ≠ [])
    {predicate : Predicate}
    (visible : ∀ test ∈ predicate.leaves, ∀ name ∈ test.field?, service.Visible name)
    {rows others : List Record} (same : List.Forall₂ service.SameVisible rows others) :
    Tables.select predicate service.target.projection rows =
      Tables.select predicate service.target.projection others := by
  induction same with
  | nil => rfl
  | @cons row other rows others head tail ih =>
      have decided : predicate.holds row = predicate.holds other :=
        predicate.holds_congr fun test htest name hname =>
          head.lookup_eq name (visible test htest name hname)
      rw [Tables.select, Tables.select] at ih ⊢
      rw [List.filter_cons, List.filter_cons, decided]
      split
      · rw [List.map_cons, List.map_cons, ih, project_eq_of_sameVisible projected head]
      · exact ih

/-- Two stores whose tables of the entity differ in hidden columns only, row by row, give the same
run for every filter in either mode: the same rows in the same order or the same failure, after the
same calls. -/
theorem filter_eq_of_sameVisible (service : Service) (projected : service.target.projection ≠ [])
    {store other : Tables}
    (same : Option.Rel (List.Forall₂ service.SameVisible) (store.find? service.target.entity)
      (other.find? service.target.entity)) (filter : Group) (mode : Mode) :
    service.filter store.answer filter mode = service.filter other.answer filter mode := by
  unfold Service.filter
  cases compiled : service.compile filter mode with
  | error failure => rfl
  | ok query =>
      have answered : store.answer (service.callOf query) =
          other.answer (service.callOf query) := by
        cases query with
        | sql statement => rfl
        | structured predicate =>
            have visible := visible_of_mem_leaves compiled
            simp only [callOf, Tables.answer]
            generalize store.find? service.target.entity = rows at same
            generalize other.find? service.target.entity = others at same
            cases same with
            | none => rfl
            | some related => simp only [select_eq_of_sameVisible projected visible related]
      simp only [answered]

/-- Users by name, whose passwords are fields that no filter may use and callers do not get. -/
def sampleUsers : Service where
  registry := ⟨[{ name := "name", type := .text, operators := [.eq] },
    { name := "password", type := .text, filterable := false }], rfl⟩
  target := ⟨"users", "users", ["id", "name"]⟩

/-- A search by name does not tell a user with a password from one without. -/
theorem sample_password_hidden :
    sampleUsers.filter
      (Tables.mk [("users", [[("name", .string "Ann"), ("password", .string "secret")]])]).answer
        { all := some [.condition ⟨"name", .eq, some (.text "Ann")⟩] } .structured =
      sampleUsers.filter (Tables.mk [("users", [[("name", .string "Ann")]])]).answer
        { all := some [.condition ⟨"name", .eq, some (.text "Ann")⟩] } .structured := by
  refine filter_eq_of_sameVisible sampleUsers (by decide)
    (.some (.cons ⟨by decide, by decide, ?_⟩ .nil)) _ _
  intro name visible
  by_cases password : name = "password"
  · subst password
    rcases visible with projected | ⟨field, found, filterable⟩
    · exact absurd projected (by decide)
    · have known : sampleUsers.registry.find? "password" =
          some { name := "password", type := .text, filterable := false } := rfl
      obtain rfl := Option.some.inj (known.symm.trans found)
      exact absurd filterable (by decide)
  · have hidden : (name == "password") = false := beq_false_of_ne password
    simp [List.lookup_cons, hidden]

end Service

end RowFilter
