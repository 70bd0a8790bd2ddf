import RowFilter.Proofs.Filter.Folding
import RowFilter.Relation
import RowFilter.Validation

/-!
# What a condition gives a compiler

The thirteen operators are of six kinds: comparisons, membership, ranges, searches and the two tests
for null. A kind asks for one value, a list or two bounds, and gets it exactly if the condition's
value is of that shape and not null.
-/

namespace RowFilter.Filter

/-- What an operator does with a column. -/
inductive OperatorKind where
  | comparison (relation : Relation)
  | member
  | between
  | search (occurrence : Occurrence)
  | isNull
  | isNotNull
  deriving DecidableEq, Repr

/-- The kind of an operator. -/
def Operator.kind : Operator → OperatorKind
  | .eq => .comparison .equal
  | .neq => .comparison .notEqual
  | .gt => .comparison .greater
  | .lt => .comparison .less
  | .gte => .comparison .greaterOrEqual
  | .lte => .comparison .lessOrEqual
  | .member => .member
  | .between => .between
  | .contains => .search .anywhere
  | .startsWith => .search .atStart
  | .endsWith => .search .atEnd
  | .isNull => .isNull
  | .isNotNull => .isNotNull

/-- Whether a value is a single one: not null, no list and no document. -/
def Value.isScalar : Value → Bool
  | .null => false
  | .list _ => false
  | .document _ => false
  | _ => true

theorem Value.isNull_of_isScalar {value : Value} (scalar : value.isScalar = true) :
    value.isNull = false := by
  cases value <;> simp_all [Value.isScalar, Value.isNull]

theorem Value.list?_eq_some_iff (value : Value) (items : List Value) :
    value.list? = some items ↔ value = .list items := by
  cases value <;> simp [Value.list?]

namespace Condition

variable {condition : Condition}

/-- The values of a condition: none, the items of a list, or the value itself. -/
def values (condition : Condition) : List Value :=
  (condition.value.map Validation.singleValues).getD []

theorem required_eq_ok_iff (value : Value) :
    condition.required = .ok value ↔ condition.value = some value ∧ value.isNull = false := by
  unfold required
  cases given : condition.value with
  | none => simp
  | some other =>
      cases null : other.isNull with
      | true =>
          simp only [Option.filter_some, null, Bool.not_true, Bool.false_eq_true, if_false,
            reduceCtorEq, false_iff, Option.some.injEq]
          rintro ⟨rfl, notNull⟩
          rw [null] at notNull
          exact Bool.noConfusion notNull
      | false =>
          simp only [Option.filter_some, null, Bool.not_false, if_true, Except.ok.injEq,
            Option.some.injEq]
          constructor
          · rintro rfl
            exact ⟨rfl, null⟩
          · exact And.left

theorem scalarArgument_eq_ok_iff (value : Value) :
    condition.scalarArgument = .ok value ↔
      condition.value = some value ∧ value.isScalar = true := by
  simp only [scalarArgument, bind_eq_ok_iff, required_eq_ok_iff]
  constructor
  · rintro ⟨given, ⟨present, notNull⟩, same⟩
    cases given with
    | null => simp [Value.isNull] at notNull
    | list items => cases same
    | document json => cases same
    | _ =>
        cases same
        exact ⟨present, rfl⟩
  · rintro ⟨present, scalar⟩
    refine ⟨value, ⟨present, Value.isNull_of_isScalar scalar⟩, ?_⟩
    cases value with
    | null => simp [Value.isScalar] at scalar
    | list items => simp [Value.isScalar] at scalar
    | document json => simp [Value.isScalar] at scalar
    | _ => rfl

theorem listArgument_eq_ok_iff (items : List Value) :
    condition.listArgument = .ok items ↔ condition.value = some (.list items) := by
  simp only [listArgument, bind_eq_ok_iff, required_eq_ok_iff]
  constructor
  · rintro ⟨value, ⟨present, _⟩, same⟩
    cases found : value.list? with
    | none =>
        rw [found] at same
        cases same
    | some others =>
        rw [found] at same
        cases same
        rw [present, (Value.list?_eq_some_iff value items).mp found]
  · intro present
    exact ⟨.list items, ⟨present, rfl⟩, rfl⟩

theorem boundsArgument_eq_ok_iff (low high : Value) :
    condition.boundsArgument = .ok (low, high) ↔ condition.value = some (.list [low, high]) := by
  simp only [boundsArgument, bind_eq_ok_iff, listArgument_eq_ok_iff]
  constructor
  · rintro ⟨items, present, same⟩
    split at same
    · cases same
      exact present
    · cases same
  · intro present
    exact ⟨[low, high], present, rfl⟩

theorem values_of_scalarArgument {value : Value}
    (argument : condition.scalarArgument = .ok value) :
    condition.values = [value] := by
  obtain ⟨present, scalar⟩ := (scalarArgument_eq_ok_iff value).mp argument
  rw [values, present]
  cases value <;> simp_all [Validation.singleValues, Value.list?, Value.isScalar]

theorem mem_values_of_scalarArgument {value : Value}
    (argument : condition.scalarArgument = .ok value) :
    value ∈ condition.values := by
  rw [values_of_scalarArgument argument]
  exact List.mem_singleton_self value

theorem values_of_listArgument {items : List Value}
    (argument : condition.listArgument = .ok items) :
    condition.values = items := by
  rw [values, (listArgument_eq_ok_iff items).mp argument]
  rfl

theorem values_of_boundsArgument {low high : Value}
    (argument : condition.boundsArgument = .ok (low, high)) :
    condition.values = [low, high] := by
  rw [values, (boundsArgument_eq_ok_iff low high).mp argument]
  rfl

end Condition

end RowFilter.Filter
