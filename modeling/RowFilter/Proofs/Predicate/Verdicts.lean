import RowFilter.Proofs.Json.Records
import RowFilter.Proofs.Predicate.Combining

/-!
# Verdicts of conditions that compare

A comparison, a membership or a range depends on a column only through how the column compares with
the values of the condition. Compiled to a predicate it goes by the order in which the library puts
a column and a value.
-/

namespace RowFilter.Filter

/-- Whether operators of the kind compare a column with values. -/
def OperatorKind.compares : OperatorKind → Bool
  | .comparison _ => true
  | .member => true
  | .between => true
  | _ => false

/-- Whether a condition that compares holds, given how the column compares with each value. -/
def Condition.holdsBy (order : Value → Option Ordering) (condition : Condition) : Bool :=
  match condition.operator.kind, condition.values with
  | .comparison relation, [value] => (order value).any relation.holds
  | .member, values => values.any fun value => order value == some .eq
  | .between, [low, high] =>
    (order low).any Relation.greaterOrEqual.holds && (order high).any Relation.lessOrEqual.holds
  | _, _ => false

namespace Condition

variable {condition : Condition} {order other : Value → Option Ordering}

theorem holdsBy_comparison {relation : Relation} {value : Value}
    (kind : condition.operator.kind = .comparison relation)
    (argument : condition.scalarArgument = .ok value) :
    condition.holdsBy order = (order value).any relation.holds := by
  rw [holdsBy, kind, values_of_scalarArgument argument]

theorem holdsBy_member {items : List Value} (kind : condition.operator.kind = .member)
    (argument : condition.listArgument = .ok items) :
    condition.holdsBy order = items.any fun value => order value == some .eq := by
  rw [holdsBy, kind, values_of_listArgument argument]

theorem holdsBy_between {low high : Value} (kind : condition.operator.kind = .between)
    (argument : condition.boundsArgument = .ok (low, high)) :
    condition.holdsBy order = ((order low).any Relation.greaterOrEqual.holds &&
      (order high).any Relation.lessOrEqual.holds) := by
  rw [holdsBy, kind, values_of_boundsArgument argument]

theorem holdsBy_congr
    (same : ∀ value ∈ condition.values, order value = other value) :
    condition.holdsBy order = condition.holdsBy other := by
  unfold holdsBy
  split
  · rename_i value _ single
    rw [same value (by rw [single]; exact List.mem_singleton_self _)]
  · rw [Bool.eq_iff_iff, List.any_eq_true, List.any_eq_true]
    apply exists_congr
    intro value
    apply and_congr_right
    intro member
    rw [same value member]
  · rename_i low high _ bounds
    have low_same := same low (by rw [bounds]; exact List.mem_cons_self)
    have high_same := same high (by rw [bounds]; exact List.mem_cons_of_mem _ List.mem_cons_self)
    rw [low_same, high_same]
  · rfl

end Condition

end RowFilter.Filter

namespace RowFilter.Comparison

open RowFilter.Filter

theorem order?_string (text : String) (value : Value) :
    order? (.string text) value = value.text?.map (orderOfTexts text) := by
  cases value <;> rfl

end RowFilter.Comparison

namespace RowFilter.Predicate

open RowFilter.Filter

/-- A predicate sees of a column what stands in it. -/
theorem column?_eq_value? (record : Record) (name : String) :
    column? record name = record.value? name := by
  rw [column?, Record.value?]
  cases record.lookup name with
  | none => rfl
  | some value => cases value <;> rfl

theorem compares_of_notNull {value : Value} (notNull : value.isNull = false) (column : Option Json)
    (relation : Relation) :
    compares column relation value =
      (column.bind fun json => Comparison.order? json value).any relation.holds := by
  unfold compares
  rw [notNull]
  cases relation <;> rfl

/-- The predicate of a condition that compares goes by the order of the column and a value. -/
theorem holds_eq_holdsBy {condition : Condition} {predicate : Predicate}
    (comparing : condition.operator.kind.compares = true)
    (compiled : ofCondition condition = .ok predicate) (record : Record) :
    predicate.holds record = condition.holdsBy fun value =>
      (record.value? condition.field).bind fun json => Comparison.order? json value := by
  rw [← column?_eq_value?]
  rw [ofCondition_eq] at compiled
  cases kind : condition.operator.kind with
  | comparison relation =>
      simp only [kind, map_eq_ok_iff] at compiled
      obtain ⟨value, argument, rfl⟩ := compiled
      have scalar := ((Condition.scalarArgument_eq_ok_iff value).mp argument).2
      rw [Condition.holdsBy_comparison kind argument, holds,
        compares_of_notNull (Value.isNull_of_isScalar scalar)]
  | member =>
      simp only [kind, map_eq_ok_iff] at compiled
      obtain ⟨items, argument, rfl⟩ := compiled
      rw [Condition.holdsBy_member kind argument, holds]
  | between =>
      simp only [kind, map_eq_ok_iff] at compiled
      obtain ⟨⟨low, high⟩, argument, rfl⟩ := compiled
      rw [Condition.holdsBy_between kind argument]
      simp only [holds, allHold, compares, Bool.and_true]
  | search occurrence => simp [kind, OperatorKind.compares] at comparing
  | isNull => simp [kind, OperatorKind.compares] at comparing
  | isNotNull => simp [kind, OperatorKind.compares] at comparing

end RowFilter.Predicate
