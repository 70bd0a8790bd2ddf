import Mathlib.Data.List.Basic
import RowFilter.Predicate.Matching
import RowFilter.Predicate.Parameterised

/-!
# Recursion over predicates

Predicates hold lists of predicates. The functions on these lists are maps, or decide the list by
deciding each predicate of it, and a statement about all predicates is proved by one induction in
which it may be assumed of every part.
-/

namespace RowFilter.Predicate

open RowFilter.Filter

/-- Induction over predicates: of a predicate with parts the statement may be assumed for each
part. -/
@[elab_as_elim]
theorem induction {motive : Predicate → Prop} (always : motive .always)
    (compare : ∀ field relation value, motive (.compare field relation value))
    (member : ∀ field values, motive (.member field values))
    (search : ∀ field occurrence text, motive (.search field occurrence text))
    (isNull : ∀ field, motive (.isNull field)) (isNotNull : ∀ field, motive (.isNotNull field))
    (all : ∀ parts, (∀ part ∈ parts, motive part) → motive (.all parts))
    (any : ∀ parts, (∀ part ∈ parts, motive part) → motive (.any parts)) (predicate : Predicate) :
    motive predicate := by
  refine @Predicate.rec motive (fun parts => ∀ part ∈ parts, motive part)
    always compare member search isNull isNotNull all any ?_ ?_ predicate
  · intro part hpart
    simp at hpart
  · intro head tail hhead htail part hpart
    rcases List.mem_cons.mp hpart with rfl | later
    · exact hhead
    · exact htail part later

theorem clauses_eq_map (parts : List Predicate) : clauses parts = parts.map clause := by
  induction parts with
  | nil => rfl
  | cons part rest ih => rw [clauses, ih, List.map_cons]

theorem allHold_iff (record : Record) (parts : List Predicate) :
    allHold record parts = true ↔ ∀ part ∈ parts, part.holds record = true := by
  induction parts with
  | nil => simp [allHold]
  | cons part rest ih => rw [allHold, Bool.and_eq_true, ih, List.forall_mem_cons]

theorem anyHolds_iff (record : Record) (parts : List Predicate) :
    anyHolds record parts = true ↔ ∃ part ∈ parts, part.holds record = true := by
  induction parts with
  | nil => simp [anyHolds]
  | cons part rest ih => rw [anyHolds, Bool.or_eq_true, ih, List.exists_mem_cons_iff]

theorem holds_all_iff (record : Record) (parts : List Predicate) :
    (all parts).holds record = true ↔ ∀ part ∈ parts, part.holds record = true := by
  rw [holds, allHold_iff]

theorem holds_any_iff (record : Record) (parts : List Predicate) :
    (any parts).holds record = true ↔ ∃ part ∈ parts, part.holds record = true := by
  rw [holds, anyHolds_iff]

end RowFilter.Predicate
