import Mathlib.Data.List.Infix
import RowFilter.Proofs.Predicate.Verdicts
import RowFilter.Proofs.Text.Parts

/-!
# The meaning of a filter

A filter is decided on a record as it stands, without a predicate: each condition by its column, and
each group by its nodes. The compiler drops what constrains nothing and lets single parts stand for
themselves; whatever the nesting, the predicate that it gives decides every record alike.
-/

namespace RowFilter

/-- Whether a part stands in a text in the given way. -/
def Occurrence.relates (occurrence : Occurrence) (part whole : List Char) : Bool :=
  match occurrence with
  | .anywhere => decide (part <:+: whole)
  | .atStart => decide (part <+: whole)
  | .atEnd => decide (part <:+ whole)

theorem Predicate.occurs_eq (occurrence : Occurrence) (part whole : String) :
    Predicate.occurs occurrence part whole =
      occurrence.relates (Text.lower part.toList) (Text.lower whole.toList) := by
  rw [Bool.eq_iff_iff]
  cases occurrence with
  | anywhere => exact (Text.occursIn_iff _ _).trans decide_eq_true_iff.symm
  | atStart => exact (Text.startsWith_iff _ _).trans decide_eq_true_iff.symm
  | atEnd => exact (Text.endsWith_iff _ _).trans decide_eq_true_iff.symm

namespace Filter

/-- Whether a column is a text in which the one value of a search stands in the given way, both in
lower case. -/
def Condition.finds (condition : Condition) (occurrence : Occurrence)
    (column : Option Json) : Bool :=
  match column, condition.values with
  | some (.string whole), [value] =>
    occurrence.relates (Text.lower value.display.toList) (Text.lower whole.toList)
  | _, _ => false

/-- Whether a condition holds of a record. A column that is missing or null satisfies the test for
null only. -/
def Condition.selects (record : Record) (condition : Condition) : Bool :=
  let column := record.value? condition.field
  match condition.operator.kind with
  | .isNull => column.isNone
  | .isNotNull => column.isSome
  | .search occurrence => condition.finds occurrence column
  | _ => condition.holdsBy fun value => column.bind fun json => Comparison.order? json value

/-- Whether a group holds, given which nodes of its buckets do: all of the first, and one of the
second unless there is none. -/
def groupSelects (alls anys : List Bool) : Bool := alls.all id && (anys.isEmpty || anys.any id)

/-- Whether a node holds of a record. -/
def Node.selects (record : Record) (node : Node) : Bool :=
  node.fold (Condition.selects record) fun all any =>
    groupSelects (bucketNodes all) (bucketNodes any)

/-- Whether a filter holds of a record. -/
def Group.selects (record : Record) (filter : Group) : Bool := filter.toNode.selects record

end Filter

namespace Predicate

open RowFilter.Filter

/-- The predicate of a condition decides every record as the condition does. -/
theorem holds_ofCondition {condition : Condition} {predicate : Predicate}
    (compiled : ofCondition condition = .ok predicate) (record : Record) :
    predicate.holds record = condition.selects record := by
  unfold Condition.selects
  dsimp only
  rw [← column?_eq_value?]
  cases kind : condition.operator.kind with
  | isNull =>
      rw [ofCondition_eq, kind] at compiled
      obtain rfl := Except.ok.inj compiled
      rw [holds]
  | isNotNull =>
      rw [ofCondition_eq, kind] at compiled
      obtain rfl := Except.ok.inj compiled
      rw [holds]
  | search occurrence =>
      simp only [ofCondition_eq, kind, map_eq_ok_iff] at compiled
      obtain ⟨value, argument, rfl⟩ := compiled
      unfold Condition.finds
      rw [holds, Condition.values_of_scalarArgument argument]
      cases column? record condition.field with
      | none => rfl
      | some json =>
          cases json with
          | string whole => exact occurs_eq occurrence value.display whole
          | _ => rfl
  | _ =>
      rw [column?_eq_value?]
      exact holds_eq_holdsBy (by rw [kind]; rfl) compiled record

theorem holds_ofGroup (record : Record) (all any : List Predicate) :
    (ofGroup all any).holds record =
      groupSelects (all.map (holds record)) (any.map (holds record)) := by
  rw [Bool.eq_iff_iff, holds_ofGroup_iff, groupSelects]
  simp [List.isEmpty_iff]

/-- The predicate of a filter decides every record as the filter does. -/
theorem holds_ofFilter {filter : Group} {predicate : Predicate}
    (compiled : ofFilter filter = .ok predicate) (record : Record) :
    predicate.holds record = filter.selects record :=
  Node.fold_reading (fun _ _ found => holds_ofCondition found record) (holds_ofGroup record)
    compiled

end Predicate

end RowFilter
