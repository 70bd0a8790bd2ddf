import RowFilter.Proofs.Validation.Acceptance

/-!
# Arguments that pass validation

What a condition without problems can give a compiler, by the kind of its operator. A test for null
has no value, a range two bounds and a membership a list, all of the field's type. A comparison or a
search has one value of the type; but a list of such values passes as well, and only the compilers
turn it down.
-/

namespace RowFilter.Validation

open RowFilter.Filter RowFilter.Schema

/-- Whether an argument passes validation for a kind of operator on a field of a type. -/
inductive Passes (type : FieldType) : OperatorKind → Option Value → Prop
  | comparison {relation : Relation} {value : Value} (accepted : type.accepts value = true) :
      Passes type (.comparison relation) (some value)
  | comparisonOfList {relation : Relation} {items : List Value}
      (accepted : ∀ item ∈ items, type.accepts item = true) :
      Passes type (.comparison relation) (some (.list items))
  | search {occurrence : Occurrence} {value : Value} (accepted : type.accepts value = true) :
      Passes type (.search occurrence) (some value)
  | searchOfList {occurrence : Occurrence} {items : List Value}
      (accepted : ∀ item ∈ items, type.accepts item = true) :
      Passes type (.search occurrence) (some (.list items))
  | member {items : List Value} (accepted : ∀ item ∈ items, type.accepts item = true) :
      Passes type .member (some (.list items))
  | between {low high : Value} (lowAccepted : type.accepts low = true)
      (highAccepted : type.accepts high = true) :
      Passes type .between (some (.list [low, high]))
  | isNull : Passes type .isNull none
  | isNotNull : Passes type .isNotNull none

theorem isScalar_of_accepts {type : FieldType} {value : Value}
    (accepted : type.accepts value = true) : value.isScalar = true := by
  cases value with
  | null => cases type <;> simp [FieldType.accepts, Value.text?, Value.finite?] at accepted
  | list items => cases type <;> simp [FieldType.accepts, Value.text?, Value.finite?] at accepted
  | document json => cases type <;> simp [FieldType.accepts, Value.text?, Value.finite?] at accepted
  | _ => rfl

private theorem accepts_or_list {type : FieldType} {value : Value}
    (accepted : ∀ single ∈ singleValues value, type.accepts single = true) :
    type.accepts value = true ∨
      ∃ items, value = .list items ∧ ∀ item ∈ items, type.accepts item = true := by
  cases value with
  | list items => exact .inr ⟨items, rfl, accepted⟩
  | _ => exact .inl (accepted _ (List.mem_singleton_self _))

/-- The values of a condition without problems are of the type of its field. -/
theorem accepts_of_mem_values {registry : Registry} {condition : Condition} {field : Field}
    (found : registry.find? condition.field = some field)
    (clean : conditionIssues registry condition = []) :
    ∀ value ∈ condition.values, field.type.accepts value = true := by
  obtain ⟨other, hother, _, accepted⟩ := (conditionIssues_eq_nil_iff registry condition).mp clean
  obtain rfl : field = other := Option.some.inj (found.symm.trans hother)
  exact accepted

/-- The argument of a condition without problems passes for its operator and its field. -/
theorem passes_of_conditionIssues {registry : Registry} {condition : Condition}
    (clean : conditionIssues registry condition = []) :
    ∃ field, registry.find? condition.field = some field ∧
      Passes field.type condition.operator.kind condition.value := by
  obtain ⟨field, found, admits, accepted⟩ :=
    (conditionIssues_eq_nil_iff registry condition).mp clean
  refine ⟨field, found, ?_⟩
  obtain ⟨name, operator, argument⟩ := condition
  cases takes : operator.takesValue with
  | false =>
      have absent : argument = none := by simpa [Condition.HasShape, takes] using admits.shape
      subst absent
      cases operator with
      | isNull => exact .isNull
      | isNotNull => exact .isNotNull
      | _ => simp [Operator.takesValue] at takes
  | true =>
      obtain ⟨value, rfl, _, bounds, listed⟩ :
          ∃ value, argument = some value ∧ value.isNull = false ∧
            (operator = .between → ∃ low high, value = .list [low, high]) ∧
            (operator = .member → ∃ items, value = .list items) := by
        simpa [Condition.HasShape, takes] using admits.shape
      change ∀ single ∈ singleValues value, field.type.accepts single = true at accepted
      have comparison : ∀ relation, Passes field.type (.comparison relation) (some value) := by
        intro relation
        rcases accepts_or_list accepted with single | ⟨items, rfl, each⟩
        · exact .comparison single
        · exact .comparisonOfList each
      have search : ∀ occurrence, Passes field.type (.search occurrence) (some value) := by
        intro occurrence
        rcases accepts_or_list accepted with single | ⟨items, rfl, each⟩
        · exact .search single
        · exact .searchOfList each
      cases operator with
      | member =>
          obtain ⟨items, rfl⟩ := listed rfl
          exact .member accepted
      | between =>
          obtain ⟨low, high, rfl⟩ := bounds rfl
          have both := List.forall_mem_cons.mp accepted
          exact .between both.1 (both.2 high (List.mem_singleton_self high))
      | isNull => simp [Operator.takesValue] at takes
      | isNotNull => simp [Operator.takesValue] at takes
      | eq => exact comparison .equal
      | neq => exact comparison .notEqual
      | gt => exact comparison .greater
      | lt => exact comparison .less
      | gte => exact comparison .greaterOrEqual
      | lte => exact comparison .lessOrEqual
      | contains => exact search .anywhere
      | startsWith => exact search .atStart
      | endsWith => exact search .atEnd

end RowFilter.Validation
