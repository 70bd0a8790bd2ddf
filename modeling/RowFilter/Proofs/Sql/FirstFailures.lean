import RowFilter.Proofs.Sql.StatementFailures
import RowFilter.Proofs.Validation.Acceptance

/-!
# The first condition that does not compile

A compiler simplifies a filter while it goes through it: a group that constrains nothing is left out
of a bucket of all, and makes a whole bucket of any disappear. No failure disappears with a bucket.
Whatever is dropped, a filter compiles exactly if each of its conditions does on its own, and
otherwise fails as the first that does not, for filters with and without problems.
-/

namespace RowFilter.Filter

/-- The filter of a single condition. -/
def Condition.alone (condition : Condition) : Group where
  all := some [.condition condition]

theorem Condition.conditions_alone (condition : Condition) :
    condition.alone.conditions = [condition] := by
  simp [Group.conditions, Condition.alone, Group.toNode, Node.conditions_group, bucketNodes]

/-- Whether a compiler fails on a filter exactly as its conditions make it fail, given the compiler
of single conditions. -/
structure FailsByCondition {α β : Type} (single : Condition → Except Failure α)
    (compile : Group → Except Failure β) (filter : Group) : Prop where
  /-- A condition on its own fails as the filter that holds nothing else. -/
  alone_eq_error_iff : ∀ condition failure,
    compile condition.alone = .error failure ↔ single condition = .error failure
  /-- The filter fails exactly if a condition that stands in it fails on its own, however deep it
  stands, in whichever bucket and beside whatever else. -/
  fails_iff : (∃ failure, compile filter = .error failure) ↔
    ∃ condition, filter.toNode.Contains condition ∧ ∃ failure, single condition = .error failure
  /-- The failure is that of the first such condition: depth first, the bucket of all before the
  bucket of any. -/
  eq_error_iff : ∀ failure, compile filter = .error failure ↔
    ∃ before condition after, filter.conditions = before ++ condition :: after ∧
      (∀ earlier ∈ before, ∃ result, single earlier = .ok result) ∧
      single condition = .error failure

/-- A compiler that reports the first failure among the conditions of every filter fails by
condition. -/
theorem failsByCondition_of_failure? {α β : Type} {single : Condition → Except Failure α}
    {compile : Group → Except Failure β}
    (first : ∀ filter : Group, failure? (compile filter) =
      filter.conditions.findSome? fun condition => failure? (single condition)) (filter : Group) :
    FailsByCondition single compile filter := by
  have reported : ∀ failure, compile filter = .error failure ↔
      ∃ before condition after, filter.conditions = before ++ condition :: after ∧
        (∀ earlier ∈ before, ∃ result, single earlier = .ok result) ∧
        single condition = .error failure := by
    intro failure
    rw [← failure?_eq_some_iff, first, List.findSome?_eq_some_iff]
    simp only [failure?_eq_some_iff, failure?_eq_none_iff]
    constructor
    · rintro ⟨before, condition, after, split, failed, passed⟩
      exact ⟨before, condition, after, split, passed, failed⟩
    · rintro ⟨before, condition, after, split, passed, failed⟩
      exact ⟨before, condition, after, split, failed, passed⟩
  refine ⟨fun condition failure => ?_, ⟨?_, ?_⟩, reported⟩
  · rw [← failure?_eq_some_iff, first, condition.conditions_alone, List.findSome?_singleton,
      failure?_eq_some_iff]
  · rintro ⟨failure, failed⟩
    obtain ⟨before, condition, after, split, _, found⟩ := (reported failure).mp failed
    have member : condition ∈ filter.conditions := by
      rw [split]
      exact List.mem_append_right before List.mem_cons_self
    exact ⟨condition, (Node.mem_conditions_iff condition filter.toNode).mp member, failure, found⟩
  · rintro ⟨condition, stands, failure, failed⟩
    have member : condition ∈ filter.conditions :=
      (Node.mem_conditions_iff condition filter.toNode).mpr stands
    have failing : (filter.conditions.findSome? fun condition => failure? (single condition)) ≠
        none := by
      intro none
      have passed := List.findSome?_eq_none_iff.mp none condition member
      rw [failed] at passed
      cases passed
    obtain ⟨other, found⟩ := Option.ne_none_iff_exists'.mp failing
    exact ⟨other, (failure?_eq_some_iff _ _).mp ((first filter).trans found)⟩

end RowFilter.Filter

namespace RowFilter.Sql

open RowFilter.Filter RowFilter.Schema

/-- Both compilers fail by condition on every filter, whether or not it has problems: the one to
statements for every schema and table, and the one to predicates. -/
theorem compilers_fail_by_condition (registry : Registry) (table : String) (filter : Group) :
    FailsByCondition (conditionClause registry) (fun filter => statement registry filter table)
      filter ∧
    FailsByCondition Predicate.ofCondition Predicate.ofFilter filter := by
  have statements : ∀ filter : Group, failure? (statement registry filter table) =
      filter.conditions.findSome? fun condition => failure? (conditionClause registry condition) :=
    fun filter => failure?_statement registry filter table
  exact ⟨failsByCondition_of_failure? statements filter,
    failsByCondition_of_failure? failure?_ofFilter filter⟩

/-- The empty group makes the bucket of any disappear, but not the failure of the field beside
it. -/
example : failure? (statement Users.registry
    { any := some [.group none none, .condition ⟨"shoeSize", .eq, some (.integer 44)⟩] } "users") =
      some (.unknownField "shoeSize") :=
  rfl

end RowFilter.Sql
