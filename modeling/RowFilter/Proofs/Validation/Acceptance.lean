import RowFilter.Proofs.Filter.Arguments
import RowFilter.Users
import RowFilter.Validation

/-!
# What validation accepts

A filter is checked condition by condition: it has exactly the problems of its conditions, in the
order in which they stand. A condition has no problem if the schema lets its field be filtered by
its operator, its value is of the shape that the operator asks for, and every single value is of the
field's type. Only single values are reported one by one; whatever else is wrong with a condition is
one problem.
-/

namespace RowFilter.Filter

/-- Whether a condition stands in a node, however deep and in whichever bucket. -/
inductive Node.Contains (condition : Condition) : Node → Prop
  | self : Contains condition (.condition condition)
  | inAll {all any : Option (List Node)} {node : Node} (member : node ∈ bucketNodes all)
      (inside : Contains condition node) : Contains condition (.group all any)
  | inAny {all any : Option (List Node)} {node : Node} (member : node ∈ bucketNodes any)
      (inside : Contains condition node) : Contains condition (.group all any)

theorem Node.mem_conditions_iff (condition : Condition) (node : Node) :
    condition ∈ node.conditions ↔ node.Contains condition := by
  induction node using Node.induction with
  | condition other =>
      rw [conditions_condition, List.mem_singleton]
      constructor
      · rintro rfl
        exact .self
      · rintro ⟨⟩
        rfl
  | group all any hall hany =>
      rw [conditions_group, List.mem_append, List.mem_flatMap, List.mem_flatMap]
      constructor
      · rintro (⟨node, hnode, inside⟩ | ⟨node, hnode, inside⟩)
        · exact .inAll hnode ((hall node hnode).mp inside)
        · exact .inAny hnode ((hany node hnode).mp inside)
      · intro inside
        cases inside with
        | inAll hnode inside => exact .inl ⟨_, hnode, (hall _ hnode).mpr inside⟩
        | inAny hnode inside => exact .inr ⟨_, hnode, (hany _ hnode).mpr inside⟩

/-- Whether a condition's value is of the shape that its operator asks for: absent if it takes none,
and otherwise present and not null, two bounds for a range and a list for a membership. -/
def Condition.HasShape (condition : Condition) : Prop :=
  if condition.operator.takesValue then
    ∃ value, condition.value = some value ∧ value.isNull = false ∧
      (condition.operator = .between → ∃ low high, value = .list [low, high]) ∧
      (condition.operator = .member → ∃ items, value = .list items)
  else condition.value = none

end RowFilter.Filter

namespace RowFilter.Validation

open RowFilter.Filter RowFilter.Schema

/-- The problems of a filter are those of its conditions in order. -/
theorem issues_eq_flatMap (registry : Registry) (filter : Group) :
    issues registry filter = filter.conditions.flatMap (conditionIssues registry) := by
  have nodes : ∀ node : Node, node.fold (conditionIssues registry) (fun all any =>
      (bucketNodes all).flatten ++ (bucketNodes any).flatten) =
        node.conditions.flatMap (conditionIssues registry) := by
    intro node
    induction node using Node.induction with
    | condition c => rw [Node.fold_condition, Node.conditions_condition, List.flatMap_singleton]
    | group all any hall hany =>
        rw [Node.fold_group, bucketNodes_map, bucketNodes_map, Node.conditions_group,
          List.flatMap_append, List.flatMap_assoc, List.flatMap_assoc, List.map_congr_left hall,
          List.map_congr_left hany]
        rfl
  exact nodes filter.toNode

/-- A condition without problems names a filterable field of the schema. -/
theorem filterable_of_conditionIssues {registry : Registry} {condition : Condition}
    (clean : conditionIssues registry condition = []) :
    ∃ field, registry.find? condition.field = some field ∧ field.filterable = true := by
  rw [conditionIssues] at clean
  split at clean
  · simp at clean
  · rename_i field found
    refine ⟨field, found, ?_⟩
    split at clean
    · simp at clean
    · rename_i filterable
      simpa using filterable

/-- Every condition of a filter without problems names a filterable field of the schema. -/
theorem filterable_of_issues {registry : Registry} {filter : Group}
    (clean : issues registry filter = []) :
    ∀ condition ∈ filter.conditions,
      ∃ field, registry.find? condition.field = some field ∧ field.filterable = true := by
  rw [issues_eq_flatMap, List.flatMap_eq_nil_iff] at clean
  exact fun condition member => filterable_of_conditionIssues (clean condition member)

private theorem all_ne_two_iff (value : Value) :
    value.list?.all (·.length ≠ 2) = true ↔ ¬ ∃ low high, value = .list [low, high] := by
  cases value with
  | list items => simp [Value.list?, List.length_eq_two]
  | _ => simp [Value.list?]

private theorem isNone_list?_iff (value : Value) :
    value.list?.isNone = true ↔ ¬ ∃ items, value = .list items := by
  cases value <;> simp [Value.list?]

/-- The check of the shape passes exactly the conditions of the right shape, with their values. -/
theorem shape_eq_right_iff (condition : Condition) (values : List Value) :
    shape condition = .right values ↔ condition.HasShape ∧ condition.values = values := by
  unfold shape Condition.HasShape Condition.values
  dsimp only
  cases condition.operator.takesValue with
  | false => cases condition.value <;> simp
  | true =>
      cases condition.value with
      | none => simp
      | some value =>
          cases null : value.isNull with
          | true =>
              have nothing : (some value).filter (fun value => !value.isNull) = none := by
                rw [Option.filter_some, null]
                rfl
              rw [nothing]
              simp [null]
          | false =>
              have kept : (some value).filter (fun value => !value.isNull) = some value := by
                rw [Option.filter_some, null]
                rfl
              rw [kept]
              simp only [Bool.not_true, Bool.false_eq_true, if_false, if_true, Option.some.injEq,
                exists_eq_left', null, true_and, Option.map_some, Option.getD_some]
              split_ifs with between member
              · rw [Bool.and_eq_true, decide_eq_true_eq, all_ne_two_iff] at between
                simp only [false_iff]
                rintro ⟨⟨bounds, _⟩, _⟩
                exact between.2 (bounds between.1)
              · rw [Bool.and_eq_true, decide_eq_true_eq, isNone_list?_iff] at member
                simp only [false_iff]
                rintro ⟨⟨_, listed⟩, _⟩
                exact member.2 (listed member.1)
              · rw [Bool.and_eq_true, decide_eq_true_eq, all_ne_two_iff] at between
                rw [Bool.and_eq_true, decide_eq_true_eq, isNone_list?_iff] at member
                rw [Shape.right.injEq]
                refine (and_iff_right ⟨fun ranged => ?_, fun listed => ?_⟩).symm
                · exact not_not.mp fun other => between ⟨ranged, other⟩
                · exact not_not.mp fun other => member ⟨listed, other⟩

/-- Whether a field lets a condition get as far as the check of its single values. -/
structure Admits (field : Field) (condition : Condition) : Prop where
  /-- The field may stand in a filter. -/
  filterable : field.filterable = true
  /-- The field allows the operator. -/
  allowed : field.allows condition.operator = true
  /-- The value is of the shape that the operator asks for. -/
  shape : condition.HasShape

variable {registry : Registry} {condition : Condition} {field : Field}

/-- An admitted condition has one problem for every single value that is not of the field's type. -/
theorem conditionIssues_of_admits (found : registry.find? condition.field = some field)
    (admits : Admits field condition) :
    conditionIssues registry condition =
      (condition.values.filter fun value => !field.type.accepts value).map
        (typeIssue condition field.type) := by
  have passed : shape condition = .right condition.values :=
    (shape_eq_right_iff condition condition.values).mpr ⟨admits.shape, rfl⟩
  unfold conditionIssues
  rw [found]
  dsimp only
  rw [admits.filterable, admits.allowed, passed]
  rfl

/-- A condition that no field admits has exactly one problem. -/
theorem conditionIssues_of_not_admits
    (refused : ¬ ∃ field, registry.find? condition.field = some field ∧ Admits field condition) :
    ∃ issue, conditionIssues registry condition = [issue] := by
  unfold conditionIssues
  split
  · exact ⟨_, rfl⟩
  · rename_i field found
    split_ifs with hidden forbidden
    · exact ⟨_, rfl⟩
    · exact ⟨_, rfl⟩
    · split
      · exact ⟨_, rfl⟩
      · rename_i values passed
        have filterable : field.filterable = true := by simpa using hidden
        have allowed : field.allows condition.operator = true := by simpa using forbidden
        have hasShape := ((shape_eq_right_iff condition values).mp passed).1
        exact absurd ⟨field, found, filterable, allowed, hasShape⟩ refused

/-- A condition has no problem exactly if its field admits it and accepts every single value. -/
theorem conditionIssues_eq_nil_iff (registry : Registry) (condition : Condition) :
    conditionIssues registry condition = [] ↔
      ∃ field, registry.find? condition.field = some field ∧ Admits field condition ∧
        ∀ value ∈ condition.values, field.type.accepts value = true := by
  by_cases admitted : ∃ field, registry.find? condition.field = some field ∧ Admits field condition
  · obtain ⟨field, found, admits⟩ := admitted
    rw [conditionIssues_of_admits found admits, List.map_eq_nil_iff, List.filter_eq_nil_iff]
    simp only [Bool.not_eq_true', Bool.not_eq_false]
    constructor
    · intro accepted
      exact ⟨field, found, admits, accepted⟩
    · rintro ⟨other, hother, _, accepted⟩
      obtain rfl : field = other := Option.some.inj (found.symm.trans hother)
      exact accepted
  · obtain ⟨issue, single⟩ := conditionIssues_of_not_admits admitted
    rw [single]
    refine iff_of_false (List.cons_ne_nil issue []) ?_
    rintro ⟨field, found, admits, _⟩
    exact admitted ⟨field, found, admits⟩

/-- A condition on a field that is not filterable has that one problem, whatever its operator and
value are. -/
theorem conditionIssues_of_not_filterable (found : registry.find? condition.field = some field)
    (hidden : field.filterable = false) :
    conditionIssues registry condition =
      [fieldIssue condition ("Field '" ++ condition.field ++ "' is not filterable")] := by
  unfold conditionIssues
  rw [found]
  dsimp only
  rw [hidden]
  rfl

/-- The problems of a filter are those of the conditions that stand in it, depth first, the bucket
of all before the bucket of any. A condition has none exactly if its field is in the schema and
admits it, and accepts every single value; it has one for every single value that an admitting field
does not accept, in order, and exactly one if no field admits it. So a condition on a field that is
not filterable is reported wherever it stands and whatever stands beside it. -/
theorem issues_of_conditions (registry : Registry) (filter : Group) :
    issues registry filter = filter.conditions.flatMap (conditionIssues registry) ∧
    (∀ condition, condition ∈ filter.conditions ↔ filter.toNode.Contains condition) ∧
    (∀ condition, conditionIssues registry condition = [] ↔
      ∃ field, registry.find? condition.field = some field ∧ Admits field condition ∧
        ∀ value ∈ condition.values, field.type.accepts value = true) ∧
    (∀ condition field, registry.find? condition.field = some field → Admits field condition →
      conditionIssues registry condition =
        (condition.values.filter fun value => !field.type.accepts value).map
          (typeIssue condition field.type)) ∧
    (∀ condition,
      (¬ ∃ field, registry.find? condition.field = some field ∧ Admits field condition) →
      ∃ issue, conditionIssues registry condition = [issue]) ∧
    (∀ condition field, filter.toNode.Contains condition →
      registry.find? condition.field = some field → field.filterable = false →
      fieldIssue condition ("Field '" ++ condition.field ++ "' is not filterable") ∈
        issues registry filter) := by
  have stands : ∀ condition, condition ∈ filter.conditions ↔ filter.toNode.Contains condition :=
    fun condition => Node.mem_conditions_iff condition filter.toNode
  refine ⟨issues_eq_flatMap registry filter, stands, conditionIssues_eq_nil_iff registry, ?_, ?_,
    ?_⟩
  · intro condition field
    exact conditionIssues_of_admits
  · intro condition
    exact conditionIssues_of_not_admits
  · intro condition field inside found hidden
    rw [issues_eq_flatMap, List.mem_flatMap]
    refine ⟨condition, (stands condition).mpr inside, ?_⟩
    rw [conditionIssues_of_not_filterable found hidden]
    exact List.mem_singleton_self _

/-- Two wrong ages, and a password two groups deep beside conditions without problems. -/
def sampleProblems : Group where
  all := some [.condition ⟨"age", .member, some (.list [.text "young", .integer 30, .null])⟩]
  any := some [.group none none, .group (some [.condition ⟨"role", .isNull, none⟩])
    (some [.condition ⟨"name", .eq, some (.text "Ann")⟩,
      .condition ⟨"password", .eq, some (.text "secret")⟩])]

/-- The password is reported, after every wrong age and the operator that roles do not allow. -/
theorem sample_password_reported :
    fieldIssue ⟨"password", .eq, some (.text "secret")⟩ "Field 'password' is not filterable" ∈
        issues Users.registry sampleProblems ∧
      (issues Users.registry sampleProblems).map (·.message) =
        ["Value 'young' is not a valid number", "Value 'null' is not a valid number",
          "Operator 'is_null' is not allowed for field 'role'",
          "Field 'password' is not filterable"] := by
  obtain ⟨_, _, _, _, _, reported⟩ := issues_of_conditions Users.registry sampleProblems
  refine ⟨?_, by decide +kernel⟩
  apply reported ⟨"password", .eq, some (.text "secret")⟩
    { name := "password", type := .text, filterable := false }
  · exact .inAny (.tail _ (.head _)) (.inAny (.tail _ (.head _)) .self)
  · rfl
  · rfl

end RowFilter.Validation
