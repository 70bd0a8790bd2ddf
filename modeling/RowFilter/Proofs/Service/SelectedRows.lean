import RowFilter.Proofs.Filter.Meaning
import RowFilter.Proofs.Store.Projections
import RowFilter.Service
import RowFilter.Store.Tables
import RowFilter.Users

/-!
# Rows that a filter selects

Over tables in memory a service gives the rows for which the filter holds, in stored order and each
as often as it is stored. Of each row callers get the columns that the target names, with their
values.
-/

namespace RowFilter.Service

open RowFilter.Filter RowFilter.Schema

/-- A predicate selects the rows for which the filter that it was compiled from holds. -/
theorem select_ofFilter {filter : Group} {predicate : Predicate}
    (compiled : Predicate.ofFilter filter = .ok predicate) (projection : List String)
    (rows : List Record) :
    Tables.select predicate projection rows =
      (rows.filter fun row => filter.selects row).map (project projection) := by
  rw [Tables.select]
  congr 2
  funext row
  exact Predicate.holds_ofFilter compiled row

/-- A filter without problems that compiles gives, in structured mode, the stored rows for which it
holds, in stored order and each as often as it is stored, and of each row the columns of the
projection with the values that they have. -/
theorem filter_gives_selected_rows (service : Service) (store : Tables) {filter : Group}
    {rows : List Record} (stored : store.find? service.target.entity = some rows)
    (clean : Validation.issues service.registry filter = [])
    (compiles : ∃ predicate, Predicate.ofFilter filter = .ok predicate) :
    ∃ shown, (service.filter store.answer filter .structured).result = .ok shown ∧
      List.Forall₂ (Record.IsProjection service.target.projection)
        (rows.filter fun row => filter.selects row) shown := by
  obtain ⟨predicate, compiled⟩ := compiles
  have query : service.compile filter .structured = .ok (.structured predicate) := by
    rw [compile, clean, compileValid, compiled]
    rfl
  have answered : store.answer (service.callOf (.structured predicate)) =
      .ok (Tables.select predicate service.target.projection rows) := by
    simp only [callOf, Tables.answer, stored]
  refine ⟨Tables.select predicate service.target.projection rows, ?_, ?_⟩
  · rw [Service.filter, query]
    dsimp only
    rw [answered]
    rfl
  · rw [select_ofFilter compiled]
    exact Record.forall₂_isProjection_project _ _

/-- Users from 28 to 35 who are administrators or have a name with `JANE` in it. -/
def sampleChoice : Group where
  all := some [.condition ⟨"age", .between, some (.list [.integer 28, .integer 35])⟩]
  any := some [.condition ⟨"role", .eq, some (.text "admin")⟩,
    .group (some [.condition ⟨"name", .contains, some (.text "JANE")⟩]) (some [])]

/-- What callers get of the users of the choice. -/
def sampleChosen : List Record :=
  [[("age", .ofInt 35), ("createdAt", .string "2024-01-15T10:30:00.000Z"),
    ("email", .string "admin@example.com"),
    ("id", .string "550e8400-e29b-41d4-a716-446655440001"), ("isActive", .boolean true),
    ("name", .string "Admin User"), ("role", .string "admin")],
   [("age", .ofInt 32), ("createdAt", .string "2024-03-05T14:45:00.000Z"),
    ("email", .string "jane.smith@example.com"),
    ("id", .string "550e8400-e29b-41d4-a716-446655440003"), ("isActive", .boolean false),
    ("name", .string "Jane Smith"), ("role", .string "moderator")],
   [("age", .ofInt 29), ("createdAt", .string "2024-05-25T16:20:00.000Z"),
    ("email", .string "alice.brown@example.com"),
    ("id", .string "550e8400-e29b-41d4-a716-446655440005"), ("isActive", .boolean true),
    ("name", .string "Alice Brown"), ("role", .string "admin")]]

/-- The choice holds of the first, the third and the last user, whose rows are given without their
passwords. -/
theorem sample_choice_selected :
    (Users.rows.map fun row => sampleChoice.selects row) = [true, false, true, false, true] ∧
      (Service.filter ⟨Users.registry, Users.target "users"⟩
        (Tables.mk [("users", Users.rows)]).answer sampleChoice .structured).result =
        .ok sampleChosen := by
  have chosen : (Users.rows.map fun row => sampleChoice.selects row) =
      [true, false, true, false, true] := by decide +kernel
  have clean : Validation.issues Users.registry sampleChoice = [] := by decide +kernel
  obtain ⟨shown, result, each⟩ := filter_gives_selected_rows
    ⟨Users.registry, Users.target "users"⟩ (Tables.mk [("users", Users.rows)]) rfl clean ⟨_, rfl⟩
  refine ⟨chosen, result.trans (congrArg Except.ok ?_)⟩
  simp only [Users.rows, List.map_cons, List.map_nil, List.cons.injEq, and_true] at chosen
  obtain ⟨first, second, third, fourth, fifth⟩ := chosen
  simp only [Users.rows, List.filter_cons, List.filter_nil, first, second, third, fourth, fifth,
    if_true, Bool.false_eq_true, if_false] at each
  exact Record.eq_of_forall₂_isProjection (by decide) each
    (Record.forall₂_isProjection_project Users.publicColumns _)

end RowFilter.Service
