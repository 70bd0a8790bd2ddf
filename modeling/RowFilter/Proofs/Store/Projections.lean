import Mathlib.Data.List.Forall2
import RowFilter.Proofs.Json.Records
import RowFilter.Store.Call

/-!
# Projections of records

A projection shows the named columns of a record, each with the value that it has, and no others. If
no column is named, it shows all. Of a record whose columns are in order there is only one.
-/

namespace RowFilter.Record

/-- Whether a record is what is left of another in the named columns, or in all if none is named. -/
structure IsProjection (columns : List String) (record shown : Record) : Prop where
  /-- Nothing is added or moved. -/
  sublist : shown.Sublist record
  /-- A column that is shown has the value that it had, or is still missing; the others are gone. -/
  lookup_eq : ∀ name, shown.lookup name =
    if columns = [] ∨ name ∈ columns then record.lookup name else none

variable {columns : List String} {record shown other : Record} {rows left right : List Record}

theorem isProjection_project (columns : List String) (record : Record) :
    IsProjection columns record (project columns record) := by
  cases columns with
  | nil => exact ⟨List.Sublist.refl record, fun _ => (if_pos (.inl rfl)).symm⟩
  | cons first others =>
      refine ⟨List.filter_sublist, fun name => ?_⟩
      have kept : List.lookup name (project (first :: others) record) =
          if (first :: others).contains name then record.lookup name else none :=
        lookup_filter (first :: others).contains name record
      simpa only [List.contains_iff_mem, reduceCtorEq, false_or] using kept

/-- A record whose columns are in order has one projection. -/
theorem IsProjection.unique (ordered : record.IsOrdered)
    (projection : IsProjection columns record shown)
    (others : IsProjection columns record other) : shown = other :=
  eq_of_lookup_eq (ordered.sublist projection.sublist) (ordered.sublist others.sublist)
    fun name => (projection.lookup_eq name).trans (others.lookup_eq name).symm

theorem forall₂_isProjection_project (columns : List String) (rows : List Record) :
    List.Forall₂ (IsProjection columns) rows (rows.map (project columns)) := by
  rw [List.forall₂_map_right_iff, List.forall₂_same]
  exact fun row _ => isProjection_project columns row

/-- Rows whose columns are in order are shown in one way. -/
theorem eq_of_forall₂_isProjection (ordered : ∀ row ∈ rows, row.IsOrdered)
    (shown : List.Forall₂ (IsProjection columns) rows left)
    (others : List.Forall₂ (IsProjection columns) rows right) : left = right := by
  induction shown generalizing right with
  | nil =>
      cases others
      rfl
  | cons head _ ih =>
      rw [List.forall_mem_cons] at ordered
      cases others with
      | cons otherHead otherTail =>
          rw [head.unique ordered.1 otherHead, ih ordered.2 otherTail]

end RowFilter.Record
