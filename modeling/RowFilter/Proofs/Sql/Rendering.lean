import RowFilter.Proofs.Filter.Arguments
import RowFilter.Proofs.Sql.Literals
import RowFilter.Sql.Statement

/-!
# Where literals come from

The literals of a statement do not say of which values they are literals: a date is written in
another form than it was given in, and a number is written as its digits. Here a filter is compiled
with the value kept beside every literal. Without the values it is the clause that is written down,
so the i-th literal of a statement comes from the i-th value kept.

Everything in the clause of a filter can be traced to conditions of the filter: every column is a
field that a condition names, every literal comes from a value of a condition.
-/

namespace RowFilter.Sql

open RowFilter.Filter RowFilter.Schema

/-- A literal beside the value that it stands for. -/
structure Rendered where
  /-- The literal. -/
  literal : Literal
  /-- The value. -/
  value : Value

namespace Rendered

/-- A pattern, which stands for itself. -/
def ofPattern (pattern : String) : Rendered := ⟨.text pattern, .text pattern⟩

/-- The operand as which the literal is read. -/
def operand (rendered : Rendered) : Operand := rendered.literal.operand

end Rendered

/-- A value of a field beside its literal. -/
def rendered (field : Field) (value : Value) : Except Failure Rendered :=
  (literal field value).map fun literal => ⟨literal, value⟩

/-- The clause of a condition on a field, with the values kept. -/
def renderedTest (field : Field) (condition : Condition) : Except Failure (Clause Rendered) :=
  match condition.operator.kind with
  | .comparison relation => do
    let value ← condition.scalarArgument
    let operand ← rendered field value
    return .compare condition.field relation operand
  | .member => do
    let values ← condition.listArgument
    let operands ← collect (values.map (rendered field))
    return if operands.isEmpty then .never else .among condition.field operands
  | .between => do
    let (low, high) ← condition.boundsArgument
    let low ← rendered field low
    let high ← rendered field high
    return .between condition.field low high
  | .search occurrence => do
    let value ← condition.scalarArgument
    return .like condition.field (.ofPattern (pattern occurrence value.display))
  | .isNull => .ok (.isNull condition.field)
  | .isNotNull => .ok (.isNotNull condition.field)

/-- The clause of a condition, with the values kept. -/
def renderedCondition (registry : Registry) (condition : Condition) :
    Except Failure (Clause Rendered) :=
  match registry.find? condition.field with
  | none => .error (.unknownField condition.field)
  | some field => renderedTest field condition

/-- The clause of a filter, with the values kept. -/
def renderedClause (registry : Registry) (filter : Group) :
    Except Failure (Option (Clause Rendered)) :=
  filter.toNode.fold (fun condition => (renderedCondition registry condition).map some)
    (compileGroup groupClause)

/-! ### Without the values -/

theorem rendered_literal (field : Field) (value : Value) :
    (rendered field value).map Rendered.literal = literal field value := by
  rw [rendered]
  cases literal field value <;> rfl

/-- The clause of a condition on a field, by the kind of its operator. -/
theorem fieldClause_eq (field : Field) (condition : Condition) :
    fieldClause field condition =
      match condition.operator.kind with
      | .comparison relation => compareClause field condition relation
      | .member => do
        let values ← condition.listArgument
        let operands ← collect (values.map (literal field))
        return if operands.isEmpty then .never else .among condition.field operands
      | .between => do
        let (low, high) ← condition.boundsArgument
        let low ← literal field low
        let high ← literal field high
        return .between condition.field low high
      | .search occurrence => searchClause condition occurrence
      | .isNull => .ok (.isNull condition.field)
      | .isNotNull => .ok (.isNotNull condition.field) := by
  unfold fieldClause
  cases condition.operator <;> rfl

/-- Without the values, a condition's clause is the one that is written down. -/
theorem fieldClause_eq_map_renderedTest (field : Field) (condition : Condition) :
    fieldClause field condition =
      (renderedTest field condition).map (Clause.map Rendered.literal) := by
  rw [fieldClause_eq, renderedTest]
  cases condition.operator.kind with
  | comparison relation =>
      simp only [compareClause, ← rendered_literal]
      cases condition.scalarArgument with
      | error failure => rfl
      | ok value =>
          simp only [ok_bind]
          cases rendered field value <;> rfl
  | member =>
      have literals : ∀ values : List Value, collect (values.map (literal field)) =
          (collect (values.map (rendered field))).map (List.map Rendered.literal) := by
        intro values
        rw [← collect_map, List.map_map]
        exact congrArg collect
          (List.map_congr_left fun value _ => (rendered_literal field value).symm)
      simp only [literals]
      cases condition.listArgument with
      | error failure => rfl
      | ok values =>
          simp only [ok_bind]
          cases collect (values.map (rendered field)) with
          | error failure => rfl
          | ok operands => cases operands <;> rfl
  | between =>
      simp only [← rendered_literal]
      cases condition.boundsArgument with
      | error failure => rfl
      | ok bounds =>
          obtain ⟨low, high⟩ := bounds
          simp only [ok_bind]
          cases rendered field low with
          | error failure => rfl
          | ok low => cases rendered field high <;> rfl
  | search occurrence =>
      simp only [searchClause]
      cases condition.scalarArgument <;> rfl
  | isNull => rfl
  | isNotNull => rfl

/-! ### Clauses of groups -/

section Groups

variable {α β : Type}

/-- The clause of a bucket of any: none if a node of the bucket has none. -/
def anyBucketClause (clauses : List (Option (Clause α))) : Option (Clause α) :=
  if clauses.any (·.isNone) then none else bucketClause .any (clauses.filterMap id)

/-- Two clauses that must both hold, where either may be absent. -/
def bothClauses : Option (Clause α) → Option (Clause α) → Option (Clause α)
  | none, clause => clause
  | some clause, none => some clause
  | some left, some right => some (.both left right)

/-- The clause of a group is that of its first bucket together with that of its second. -/
theorem groupClause_eq (all any : List (Option (Clause α))) :
    groupClause all any =
      bothClauses (bucketClause .all (all.filterMap id)) (anyBucketClause any) := by
  unfold groupClause anyBucketClause
  dsimp only
  generalize bucketClause Clause.all (all.filterMap id) = left
  generalize (if any.any (·.isNone) then none else bucketClause Clause.any (any.filterMap id)) =
    right
  cases left <;> cases right <;> rfl

theorem bucketClause_eq_none_iff (wrap : List (Clause α) → Clause α) (parts : List (Clause α)) :
    bucketClause wrap parts = none ↔ parts = [] := by
  cases parts <;> simp [bucketClause]

theorem any_isNone_iff (clauses : List (Option (Clause α))) :
    clauses.any (·.isNone) = true ↔ none ∈ clauses := by
  simp only [List.any_eq_true, Option.isNone_iff_eq_none, exists_eq_right]

private theorem filterMap_id_map (f : α → β) (clauses : List (Option (Clause α))) :
    (clauses.map (Option.map (Clause.map f))).filterMap id =
      (clauses.filterMap id).map (Clause.map f) := by
  rw [List.filterMap_map, List.map_filterMap]
  rfl

theorem bucketClause_map (f : α → β) {wrap : List (Clause α) → Clause α}
    {wrap' : List (Clause β) → Clause β}
    (natural : ∀ parts, wrap' (parts.map (Clause.map f)) = (wrap parts).map f)
    (parts : List (Clause α)) :
    bucketClause wrap' (parts.map (Clause.map f)) =
      (bucketClause wrap parts).map (Clause.map f) := by
  cases parts with
  | nil => rfl
  | cons part rest => exact congrArg some (natural (part :: rest))

private theorem anyBucketClause_map (f : α → β) (clauses : List (Option (Clause α))) :
    anyBucketClause (clauses.map (Option.map (Clause.map f))) =
      (anyBucketClause clauses).map (Clause.map f) := by
  have absent : (clauses.map (Option.map (Clause.map f))).any (·.isNone) =
      clauses.any (·.isNone) := by
    rw [List.any_map]
    congr 1
    funext clause
    cases clause <;> rfl
  rw [anyBucketClause, anyBucketClause, absent, filterMap_id_map]
  split
  · rfl
  · exact bucketClause_map f (fun parts => (Clause.map_any f parts).symm) (clauses.filterMap id)

/-- Combining the clauses of a group does not look at operands. -/
theorem groupClause_map (f : α → β) (all any : List (Option (Clause α))) :
    groupClause (all.map (Option.map (Clause.map f))) (any.map (Option.map (Clause.map f))) =
      (groupClause all any).map (Clause.map f) := by
  have allBucket :=
    bucketClause_map f (fun parts => (Clause.map_all f parts).symm) (all.filterMap id)
  rw [groupClause_eq, groupClause_eq, filterMap_id_map, allBucket, anyBucketClause_map]
  cases bucketClause Clause.all (all.filterMap id) <;> cases anyBucketClause any <;> rfl

end Groups

/-! ### Without the values, for filters -/

/-- Without the values, a filter's clause is the one that is written down. -/
theorem filterClause_eq_map_renderedClause (registry : Registry) (filter : Group) :
    filterClause registry filter =
      (renderedClause registry filter).map (Option.map (Clause.map Rendered.literal)) := by
  have leaf : (fun condition => (conditionClause registry condition).map some) = fun condition =>
      ((renderedCondition registry condition).map some).map
        (Option.map (Clause.map Rendered.literal)) := by
    funext condition
    rw [conditionClause, renderedCondition]
    cases registry.find? condition.field with
    | none => rfl
    | some field =>
        dsimp only
        rw [fieldClause_eq_map_renderedTest]
        cases renderedTest field condition <;> rfl
  have folded : filterClause registry filter = filter.toNode.fold
      (fun condition => (conditionClause registry condition).map some)
      (compileGroup groupClause) := rfl
  rw [folded, leaf]
  exact Node.fold_map (groupClause_map Rendered.literal) filter.toNode

end RowFilter.Sql
