import RowFilter.Proofs.Filter.FirstFailure
import RowFilter.Proofs.Predicate.Combining
import RowFilter.Proofs.Sql.Rendering
import RowFilter.Proofs.Validation.Arguments

/-!
# Failures of two compilers

Both compilers of a filter turn down what validation lets through: a list for an operator that needs
a single value. For a filter without problems nothing else fails, neither a field nor a literal, and
the two report the same failure, that of the first such condition. Without validation the compiler
to statements is the stricter one, since it also wants values of the types of their fields.
-/

namespace RowFilter.Filter

open RowFilter.Schema RowFilter.Validation

namespace Condition

/-- Whether a condition has a list where its operator needs a single value. -/
def ListForSingle (condition : Condition) : Prop :=
  condition.operator ∉ [.member, .between, .isNull, .isNotNull] ∧
    ∃ items, condition.value = some (.list items)

/-- The failure of a list where a single value is needed. -/
def listFailure (condition : Condition) : Failure :=
  condition.malformed (condition.operatorPhrase ++ " requires a scalar value, got " ++ "array")

theorem code_listFailure (condition : Condition) : condition.listFailure.cause.code = "S9001" := by
  show "S" ++ toString 9001 = "S9001"
  decide

variable {condition : Condition}

theorem scalarArgument_of_list {items : List Value}
    (given : condition.value = some (.list items)) :
    condition.scalarArgument = .error condition.listFailure := by
  have required : condition.required = .ok (.list items) :=
    (required_eq_ok_iff _).mpr ⟨given, rfl⟩
  rw [scalarArgument, required]
  rfl

theorem scalarArgument_of_accepts {type : FieldType} {value : Value}
    (given : condition.value = some value) (accepted : type.accepts value = true) :
    condition.scalarArgument = .ok value :=
  (scalarArgument_eq_ok_iff value).mpr ⟨given, isScalar_of_accepts accepted⟩

end Condition

end RowFilter.Filter

namespace RowFilter.Sql

open RowFilter.Filter RowFilter.Schema RowFilter.Validation

theorem ne_list_of_accepts {type : FieldType} {value : Value} (accepted : type.accepts value = true)
    (items : List Value) : value ≠ .list items := by
  rintro rfl
  exact Bool.noConfusion (isScalar_of_accepts accepted)

/-- A value that a field's type accepts has a literal. -/
theorem literal_of_accepts {field : Field} {value : Value}
    (accepted : field.type.accepts value = true) :
    ∃ written, literal field value = .ok written := by
  have written : (literal? field value).isSome = true := by
    unfold literal?
    cases type : field.type <;> cases value <;>
      simp_all [FieldType.accepts, Value.text?, Value.finite?]
  obtain ⟨found, hfound⟩ := Option.isSome_iff_exists.mp written
  refine ⟨found, ?_⟩
  rw [literal, hfound]

variable {registry : Registry} {condition : Condition}

/-- Both compilers give a condition without problems the same failure, if any. -/
theorem failure?_conditionClause (clean : conditionIssues registry condition = []) :
    failure? (conditionClause registry condition) = failure? (Predicate.ofCondition condition) := by
  obtain ⟨field, found, passes⟩ := passes_of_conditionIssues clean
  have known : conditionClause registry condition = fieldClause field condition := by
    rw [conditionClause, found]
  rw [known, fieldClause_eq, Predicate.ofCondition_eq]
  generalize hkind : condition.operator.kind = kind at passes
  generalize hvalue : condition.value = argument at passes
  cases passes with
  | comparison accepted =>
      obtain ⟨written, hwritten⟩ := literal_of_accepts accepted
      simp only [compareClause, Condition.scalarArgument_of_accepts hvalue accepted, ok_bind,
        hwritten]
      rfl
  | comparisonOfList accepted =>
      simp only [compareClause, Condition.scalarArgument_of_list hvalue]
      rfl
  | search accepted =>
      simp only [searchClause, Condition.scalarArgument_of_accepts hvalue accepted]
      rfl
  | searchOfList accepted =>
      simp only [searchClause, Condition.scalarArgument_of_list hvalue]
      rfl
  | @member items accepted =>
      have written : failure? (collect (items.map (literal field))) = none := by
        rw [failure?_collect, List.findSome?_map, List.findSome?_eq_none_iff]
        intro item hitem
        exact (failure?_eq_none_iff _).mpr (literal_of_accepts (accepted item hitem))
      obtain ⟨operands, hoperands⟩ := (failure?_eq_none_iff _).mp written
      simp only [(Condition.listArgument_eq_ok_iff _).mpr hvalue, ok_bind, hoperands]
      rfl
  | between lowAccepted highAccepted =>
      obtain ⟨low, hlow⟩ := literal_of_accepts lowAccepted
      obtain ⟨high, hhigh⟩ := literal_of_accepts highAccepted
      simp only [(Condition.boundsArgument_eq_ok_iff _ _).mpr hvalue, ok_bind, hlow, hhigh]
      rfl
  | isNull => rfl
  | isNotNull => rfl

/-- A condition without problems that is compiled to a predicate has a clause. -/
theorem exists_fieldClause {field : Field} {predicate : Predicate}
    (found : registry.find? condition.field = some field)
    (clean : conditionIssues registry condition = [])
    (compiled : Predicate.ofCondition condition = .ok predicate) :
    ∃ clause, conditionClause registry condition = .ok clause ∧
      fieldClause field condition = .ok clause := by
  have known : conditionClause registry condition = fieldClause field condition := by
    rw [conditionClause, found]
  have written : failure? (conditionClause registry condition) = none := by
    rw [failure?_conditionClause clean]
    exact (failure?_eq_none_iff _).mpr ⟨predicate, compiled⟩
  obtain ⟨clause, hclause⟩ := (failure?_eq_none_iff _).mp written
  exact ⟨clause, hclause, known ▸ hclause⟩

/-- A condition without problems is turned down exactly if it has a list for a single value. -/
theorem failure?_ofCondition_eq_some_iff (clean : conditionIssues registry condition = [])
    (failure : Failure) :
    failure? (Predicate.ofCondition condition) = some failure ↔
      condition.ListForSingle ∧ condition.listFailure = failure := by
  obtain ⟨field, _, passes⟩ := passes_of_conditionIssues clean
  have single : condition.operator ∉ [.member, .between, .isNull, .isNotNull] ↔
      condition.operator.kind ∉ [.member, .between, .isNull, .isNotNull] := by
    cases condition.operator <;> decide
  rw [Predicate.ofCondition_eq, Condition.ListForSingle, single]
  generalize hkind : condition.operator.kind = kind at passes
  generalize hvalue : condition.value = argument at passes
  cases passes with
  | comparison accepted =>
      rw [Condition.scalarArgument_of_accepts hvalue accepted]
      simp [failure?, Except.map, ne_list_of_accepts accepted]
  | comparisonOfList accepted =>
      rw [Condition.scalarArgument_of_list hvalue]
      simp [failure?, Except.map]
  | search accepted =>
      rw [Condition.scalarArgument_of_accepts hvalue accepted]
      simp [failure?, Except.map, ne_list_of_accepts accepted]
  | searchOfList accepted =>
      rw [Condition.scalarArgument_of_list hvalue]
      simp [failure?, Except.map]
  | member accepted =>
      rw [(Condition.listArgument_eq_ok_iff _).mpr hvalue]
      simp [failure?, Except.map]
  | between lowAccepted highAccepted =>
      rw [(Condition.boundsArgument_eq_ok_iff _ _).mpr hvalue]
      simp [failure?, Except.map]
  | isNull => simp [failure?]
  | isNotNull => simp [failure?]

/-! ### Whole filters -/

/-- A filter's statement fails as the clause of the first condition that has none. -/
theorem failure?_statement (registry : Registry) (filter : Group) (table : String) :
    failure? (statement registry filter table) =
      filter.conditions.findSome? fun condition =>
        failure? (conditionClause registry condition) := by
  have finished : failure? (statement registry filter table) =
      failure? (filterClause registry filter) := by
    rw [statement]
    cases filterClause registry filter <;> rfl
  have folded : failure? (filterClause registry filter) =
      filter.toNode.conditions.findSome? fun condition =>
        failure? ((conditionClause registry condition).map some) :=
    failure?_fold _ groupClause filter.toNode
  rw [finished, folded]
  simp only [failure?_map]
  rfl

/-- A filter's predicate fails as that of the first condition that has none. -/
theorem failure?_ofFilter (filter : Group) :
    failure? (Predicate.ofFilter filter) =
      filter.conditions.findSome? fun condition => failure? (Predicate.ofCondition condition) := by
  rw [Predicate.ofFilter_eq_fold, failure?_fold]
  rfl

/-- A condition that has a clause in a statement has a predicate. -/
theorem failure?_ofCondition_of_conditionClause
    (compiled : failure? (conditionClause registry condition) = none) :
    failure? (Predicate.ofCondition condition) = none := by
  obtain ⟨clause, hclause⟩ := (failure?_eq_none_iff _).mp compiled
  rw [conditionClause] at hclause
  split at hclause
  · cases hclause
  · rw [fieldClause_eq] at hclause
    rw [Predicate.ofCondition_eq]
    cases kind : condition.operator.kind with
    | comparison relation =>
        simp only [kind, compareClause, bind_eq_ok_iff] at hclause
        obtain ⟨value, argument, _⟩ := hclause
        rw [argument]
        rfl
    | search occurrence =>
        simp only [kind, searchClause, bind_eq_ok_iff] at hclause
        obtain ⟨value, argument, _⟩ := hclause
        rw [argument]
        rfl
    | member =>
        simp only [kind, bind_eq_ok_iff] at hclause
        obtain ⟨items, argument, _⟩ := hclause
        rw [argument]
        rfl
    | between =>
        simp only [kind, bind_eq_ok_iff] at hclause
        obtain ⟨bounds, argument, _⟩ := hclause
        rw [argument]
        rfl
    | isNull => rfl
    | isNotNull => rfl

/-- For a filter without problems the two compilers report the same failure, if any. -/
theorem failure?_statement_of_clean {filter : Group} (clean : issues registry filter = [])
    (table : String) :
    failure? (statement registry filter table) = failure? (Predicate.ofFilter filter) := by
  rw [issues_eq_flatMap, List.flatMap_eq_nil_iff] at clean
  rw [failure?_statement, failure?_ofFilter]
  exact findSome?_congr fun condition hcondition =>
    failure?_conditionClause (clean condition hcondition)

/-- For a filter without problems the failure is that of the first list for a single value. -/
theorem first_listForSingle_of_failure {filter : Group} (clean : issues registry filter = [])
    {failure : Failure} (failed : Predicate.ofFilter filter = .error failure) :
    ∃ before condition after, filter.conditions = before ++ condition :: after ∧
      (∀ earlier ∈ before, ¬ earlier.ListForSingle) ∧ condition.ListForSingle ∧
      condition.listFailure = failure := by
  rw [issues_eq_flatMap, List.flatMap_eq_nil_iff] at clean
  rw [← failure?_eq_some_iff, failure?_ofFilter, List.findSome?_eq_some_iff] at failed
  obtain ⟨before, condition, after, split, found, none_before⟩ := failed
  have clean_at : ∀ other, other ∈ before ++ condition :: after →
      conditionIssues registry other = [] := fun other hother => clean other (split ▸ hother)
  obtain ⟨listed, same⟩ :=
    (failure?_ofCondition_eq_some_iff (clean_at condition (by simp)) failure).mp found
  refine ⟨before, condition, after, split, fun earlier hearlier other => ?_, listed, same⟩
  have first := (failure?_ofCondition_eq_some_iff
    (clean_at earlier (List.mem_append_left _ hearlier)) earlier.listFailure).mpr ⟨other, rfl⟩
  rw [none_before earlier hearlier] at first
  cases first

/-- A filter with a list for a single value has no predicate, if the condition has no problems. -/
theorem failure_of_listForSingle {filter : Group} {condition : Condition}
    (member : condition ∈ filter.conditions) (clean : conditionIssues registry condition = [])
    (listed : condition.ListForSingle) : ∃ failure, Predicate.ofFilter filter = .error failure := by
  have own := (failure?_ofCondition_eq_some_iff clean condition.listFailure).mpr ⟨listed, rfl⟩
  cases compiled : Predicate.ofFilter filter with
  | error failure => exact ⟨failure, rfl⟩
  | ok predicate =>
      have none_fails := failure?_ofFilter filter
      rw [compiled, eq_comm, failure?, List.findSome?_eq_none_iff] at none_fails
      rw [none_fails condition member] at own
      cases own

/-- For a filter without problems the two compilers fail together and alike. They do so exactly if a
condition has a list where its operator needs a single value, and then report the first such
condition, by its field and its operator. A filter with a statement has a predicate, whether it has
problems or not. -/
theorem compilers_fail_alike (registry : Registry) (table : String) :
    (∀ filter, issues registry filter = [] →
      (∀ failure, Predicate.ofFilter filter = .error failure ↔
        statement registry filter table = .error failure) ∧
      ((∃ failure, Predicate.ofFilter filter = .error failure) ↔
        ∃ condition ∈ filter.conditions, condition.ListForSingle) ∧
      ∀ failure, Predicate.ofFilter filter = .error failure →
        ∃ before condition after, filter.conditions = before ++ condition :: after ∧
          (∀ earlier ∈ before, ¬ earlier.ListForSingle) ∧ condition.ListForSingle ∧
          failure = condition.malformed
            (condition.operatorPhrase ++ " requires a scalar value, got " ++ "array") ∧
          failure.cause.code = "S9001") ∧
    ∀ filter text, statement registry filter table = .ok text →
      ∃ predicate, Predicate.ofFilter filter = .ok predicate := by
  refine ⟨fun filter clean => ⟨fun failure => ?_, ⟨?_, ?_⟩, fun failure failed => ?_⟩, ?_⟩
  · rw [← failure?_eq_some_iff, ← failure?_eq_some_iff, failure?_statement_of_clean clean]
  · rintro ⟨failure, failed⟩
    obtain ⟨before, condition, after, split, _, listed, _⟩ :=
      first_listForSingle_of_failure clean failed
    exact ⟨condition, by rw [split]; simp, listed⟩
  · rintro ⟨condition, member, listed⟩
    rw [issues_eq_flatMap, List.flatMap_eq_nil_iff] at clean
    exact failure_of_listForSingle member (clean condition member) listed
  · obtain ⟨before, condition, after, split, first, listed, rfl⟩ :=
      first_listForSingle_of_failure clean failed
    exact ⟨before, condition, after, split, first, listed, rfl, condition.code_listFailure⟩
  · intro filter text compiled
    have clauses : failure? (statement registry filter table) = none :=
      (failure?_eq_none_iff _).mpr ⟨text, compiled⟩
    rw [failure?_statement, List.findSome?_eq_none_iff] at clauses
    rw [← failure?_eq_none_iff, failure?_ofFilter, List.findSome?_eq_none_iff]
    exact fun condition member => failure?_ofCondition_of_conditionClause (clauses condition member)

/-- A filter without problems in which two conditions have lists for single values, the first of
them in a group that is the second of its bucket. -/
def sampleLists : Group where
  all := some [.group none none,
    .group (some [.condition ⟨"age", .gt, some (.list [.integer 30])⟩]) none]
  any := some [.condition ⟨"name", .contains, some (.list [])⟩]

/-- Both compilers report the list of ages, which comes first. -/
theorem sample_lists_refused :
    issues Users.registry sampleLists = [] ∧
      statement Users.registry sampleLists "users" = .error (.malformedCondition "age" "gt"
        "operator 'gt' requires a scalar value, got array") := by
  obtain ⟨alike, _⟩ := compilers_fail_alike Users.registry "users"
  have clean : issues Users.registry sampleLists = [] := by decide +kernel
  obtain ⟨same, _, _⟩ := alike sampleLists clean
  exact ⟨clean, (same _).mp rfl⟩

end RowFilter.Sql
