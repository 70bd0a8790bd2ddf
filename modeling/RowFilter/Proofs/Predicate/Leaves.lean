import RowFilter.Proofs.Predicate.Combining

/-!
# The tests of a predicate

A predicate is built over tests of single fields. What it says of a record depends on the record
only through the fields that it tests, and every test in the predicate of a filter is one that a
condition of the filter asks for.
-/

namespace RowFilter.Predicate

open RowFilter.Filter

/-- The values that a test compares its field with. -/
def comparedValues : Predicate → List Value
  | .compare _ _ value => [value]
  | .member _ values => values
  | _ => []

mutual

/-- The tests of single fields that a predicate is built over, from left to right. -/
def leaves : Predicate → List Predicate
  | .always => []
  | .all parts => leavesOfParts parts
  | .any parts => leavesOfParts parts
  | test => [test]

/-- The tests of single fields that predicates are built over, from left to right. -/
def leavesOfParts : List Predicate → List Predicate
  | [] => []
  | part :: rest => leaves part ++ leavesOfParts rest

end

private theorem leavesOfParts_eq_flatMap (parts : List Predicate) :
    leavesOfParts parts = parts.flatMap leaves := by
  induction parts with
  | nil => rfl
  | cons part rest ih => rw [leavesOfParts, ih, List.flatMap_cons]

@[simp] theorem leaves_always : always.leaves = [] := by rw [leaves]

theorem leaves_all (parts : List Predicate) : (all parts).leaves = parts.flatMap leaves := by
  rw [leaves, leavesOfParts_eq_flatMap]

theorem leaves_any (parts : List Predicate) : (any parts).leaves = parts.flatMap leaves := by
  rw [leaves, leavesOfParts_eq_flatMap]

/-- A test of a field is built over itself. -/
theorem leaves_of_field? {test : Predicate} {field : String} (tests : test.field? = some field) :
    test.leaves = [test] := by
  cases test <;> first | rfl | simp [field?] at tests

private theorem holds_test_congr {record other : Record} {test : Predicate} {field : String}
    (tests : test.field? = some field) (same : record.lookup field = other.lookup field) :
    test.holds record = test.holds other := by
  have column : column? record field = column? other field := by rw [column?, column?, same]
  cases test with
  | always => simp [field?] at tests
  | all parts => simp [field?] at tests
  | any parts => simp [field?] at tests
  | _ =>
      obtain rfl := Option.some.inj tests
      simp only [holds, column]

/-- A predicate says the same of two records that look up the fields of all its tests alike. -/
theorem holds_congr {record other : Record} (predicate : Predicate)
    (same : ∀ test ∈ predicate.leaves, ∀ field ∈ test.field?,
      record.lookup field = other.lookup field) :
    predicate.holds record = predicate.holds other := by
  induction predicate using induction with
  | always => rw [holds, holds]
  | all parts ih =>
      rw [leaves_all, List.forall_mem_flatMap] at same
      rw [Bool.eq_iff_iff, holds_all_iff, holds_all_iff]
      apply forall₂_congr
      intro part hpart
      rw [ih part hpart (same part hpart)]
  | any parts ih =>
      rw [leaves_any, List.forall_mem_flatMap] at same
      rw [Bool.eq_iff_iff, holds_any_iff, holds_any_iff]
      apply exists_congr
      intro part
      apply and_congr_right
      intro hpart
      rw [ih part hpart (same part hpart)]
  | _ =>
      have tests := same _ (by rw [leaves_of_field? rfl]; exact List.mem_singleton_self _) _ rfl
      exact holds_test_congr rfl tests

theorem leaves_allOf_subset (parts : List Predicate) :
    (allOf parts).leaves ⊆ parts.flatMap leaves := by
  have kept : (proper parts).flatMap leaves ⊆ parts.flatMap leaves := by
    intro test htest
    obtain ⟨part, hpart, inPart⟩ := List.mem_flatMap.mp htest
    exact List.mem_flatMap.mpr ⟨part, (mem_proper_iff.mp hpart).1, inPart⟩
  rcases allOf_cases parts with ⟨_, same⟩ | ⟨part, single, same⟩ | ⟨_, same⟩
  · simp [same]
  · rw [same]
    simpa [single] using kept
  · rwa [same, leaves_all]

theorem leaves_anyOf_subset (parts : List Predicate) :
    (anyOf parts).leaves ⊆ parts.flatMap leaves := by
  rcases anyOf_cases parts with ⟨_, same⟩ | ⟨part, rfl, _, same⟩ | ⟨_, _, same⟩
  · simp [same]
  · simp [same]
  · rw [same, leaves_any]
    exact List.Subset.refl _

/-- The tests of a group's predicate are tests of its nodes' predicates. -/
theorem leaves_ofGroup_subset (all any : List Predicate) :
    (ofGroup all any).leaves ⊆ all.flatMap leaves ++ any.flatMap leaves := by
  intro test htest
  have inBuckets := leaves_allOf_subset _ htest
  simp only [List.flatMap_cons, List.flatMap_nil, List.append_nil, List.mem_append] at inBuckets
  rcases inBuckets with inAll | inAny
  · exact List.mem_append_left _ (leaves_allOf_subset all inAll)
  · exact List.mem_append_right _ (leaves_anyOf_subset any inAny)

/-- Every test of a condition's predicate is of the field that the condition names. -/
theorem field?_of_mem_leaves_ofCondition {condition : Condition} {predicate : Predicate}
    (compiled : ofCondition condition = .ok predicate) :
    ∀ test ∈ predicate.leaves, test.field? = some condition.field := by
  rcases ofCondition_cases compiled with tests | ⟨low, high, rfl⟩
  · rw [leaves_of_field? tests, List.forall_mem_singleton]
    exact tests
  · rw [leaves_all, List.flatMap_cons, List.flatMap_singleton, leaves_of_field? rfl,
      leaves_of_field? rfl]
    simp [field?]

/-- What the tests of a condition compare the field with are values of the condition. -/
theorem comparedValues_subset_values {condition : Condition} {predicate : Predicate}
    (compiled : ofCondition condition = .ok predicate) :
    ∀ test ∈ predicate.leaves, test.comparedValues ⊆ condition.values := by
  rw [ofCondition_eq] at compiled
  cases kind : condition.operator.kind with
  | comparison relation =>
      simp only [kind, map_eq_ok_iff] at compiled
      obtain ⟨value, argument, rfl⟩ := compiled
      rw [leaves_of_field? rfl, List.forall_mem_singleton,
        Condition.values_of_scalarArgument argument]
      exact List.Subset.refl _
  | member =>
      simp only [kind, map_eq_ok_iff] at compiled
      obtain ⟨values, argument, rfl⟩ := compiled
      rw [leaves_of_field? rfl, List.forall_mem_singleton,
        Condition.values_of_listArgument argument]
      exact List.Subset.refl _
  | between =>
      simp only [kind, map_eq_ok_iff] at compiled
      obtain ⟨⟨low, high⟩, argument, rfl⟩ := compiled
      rw [leaves_all, List.flatMap_cons, List.flatMap_singleton, leaves_of_field? rfl,
        leaves_of_field? rfl, Condition.values_of_boundsArgument argument]
      simp [comparedValues]
  | search occurrence =>
      simp only [kind, map_eq_ok_iff] at compiled
      obtain ⟨value, _, rfl⟩ := compiled
      rw [leaves_of_field? rfl, List.forall_mem_singleton]
      exact List.nil_subset _
  | isNull =>
      simp only [kind, Except.ok.injEq] at compiled
      rw [← compiled, leaves_of_field? rfl, List.forall_mem_singleton]
      exact List.nil_subset _
  | isNotNull =>
      simp only [kind, Except.ok.injEq] at compiled
      rw [← compiled, leaves_of_field? rfl, List.forall_mem_singleton]
      exact List.nil_subset _

/-- Every test of a filter's predicate is asked for by a condition of the filter. -/
theorem mem_leaves_ofFilter {filter : Group} {predicate : Predicate}
    (compiled : ofFilter filter = .ok predicate) :
    ∀ test ∈ predicate.leaves, ∃ condition ∈ filter.conditions, ∃ tested,
      ofCondition condition = .ok tested ∧ test ∈ tested.leaves := by
  rw [ofFilter_eq_fold] at compiled
  refine Node.fold_invariant
    (P := fun predicate => ∀ test ∈ predicate.leaves, ∃ condition ∈ filter.conditions, ∃ tested,
    ofCondition condition = .ok tested ∧ test ∈ tested.leaves) ?_ ?_ compiled
  · intro condition hcondition tested htested test htest
    exact ⟨condition, hcondition, tested, htested, htest⟩
  · intro alls anys inAll inAny test htest
    rcases List.mem_append.mp (leaves_ofGroup_subset alls anys htest) with early | late
    · obtain ⟨part, hpart, inPart⟩ := List.mem_flatMap.mp early
      exact inAll part hpart test inPart
    · obtain ⟨part, hpart, inPart⟩ := List.mem_flatMap.mp late
      exact inAny part hpart test inPart

end RowFilter.Predicate
