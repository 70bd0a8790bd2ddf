import RowFilter.Proofs.Filter.Arguments
import RowFilter.Proofs.Predicate.Recursion
import RowFilter.Predicate.Compilation

/-!
# Predicates of filters

What the predicate of a filter means, without regard to how parts are dropped and single parts stand
for themselves: that of a group holds if those of all nodes of its first bucket hold and one of its
second, unless that is empty. It is true of everything if no node of the first bucket constrains
anything, and the second is empty or has a node that does not.
-/

namespace RowFilter.Predicate

open RowFilter.Filter

theorem isAlways_iff (predicate : Predicate) : predicate.isAlways = true ↔ predicate = .always := by
  cases predicate <;> simp [isAlways]

/-- The parts that are not true of everything. -/
def proper (parts : List Predicate) : List Predicate := parts.filter fun part => !part.isAlways

theorem mem_proper_iff {part : Predicate} {parts : List Predicate} :
    part ∈ proper parts ↔ part ∈ parts ∧ part ≠ .always := by
  rw [proper, List.mem_filter, Bool.not_eq_true', Bool.eq_false_iff, ne_eq, ne_eq, isAlways_iff]

/-- All of some predicates: none of them constrains anything, a single one does and stands for
itself, or several do. -/
theorem allOf_cases (parts : List Predicate) :
    (proper parts = [] ∧ allOf parts = .always) ∨
      (∃ part, proper parts = [part] ∧ allOf parts = part) ∨
      (2 ≤ (proper parts).length ∧ allOf parts = .all (proper parts)) := by
  rw [allOf, ← proper]
  match proper parts with
  | [] => exact .inl ⟨rfl, rfl⟩
  | [part] => exact .inr (.inl ⟨part, rfl, rfl⟩)
  | first :: second :: rest => exact .inr (.inr ⟨by simp, rfl⟩)

/-- One of some predicates: there is none or one that is true of everything, there is a single one
that is not, or there are several, none of which is. -/
theorem anyOf_cases (parts : List Predicate) :
    ((parts = [] ∨ .always ∈ parts) ∧ anyOf parts = .always) ∨
      (∃ part, parts = [part] ∧ part ≠ .always ∧ anyOf parts = part) ∨
      (2 ≤ parts.length ∧ .always ∉ parts ∧ anyOf parts = .any parts) := by
  have some_always : parts.any isAlways = true ↔ .always ∈ parts := by
    simp only [List.any_eq_true, isAlways_iff, exists_eq_right]
  unfold anyOf
  split
  · rename_i trivial_part
    exact .inl ⟨.inr (some_always.mp trivial_part), rfl⟩
  · rename_i constrained
    rw [some_always] at constrained
    match parts with
    | [] => exact .inl ⟨.inl rfl, rfl⟩
    | [part] =>
        have proper : part ≠ .always := fun always => constrained (by simp [always])
        exact .inr (.inl ⟨part, rfl, proper, rfl⟩)
    | first :: second :: rest => exact .inr (.inr ⟨by simp, constrained, rfl⟩)

/-- All of some predicates hold together exactly if each holds. -/
theorem holds_allOf_iff (record : Record) (parts : List Predicate) :
    (allOf parts).holds record = true ↔ ∀ part ∈ parts, part.holds record = true := by
  have dropped : (∀ part ∈ parts, part.holds record = true) ↔
      ∀ part ∈ proper parts, part.holds record = true := by
    constructor
    · intro each part hpart
      exact each part (mem_proper_iff.mp hpart).1
    · intro each part hpart
      by_cases always : part = .always
      · rw [always, holds]
      · exact each part (mem_proper_iff.mpr ⟨hpart, always⟩)
  rw [dropped]
  rcases allOf_cases parts with ⟨kept, same⟩ | ⟨part, kept, same⟩ | ⟨_, same⟩
  · simp [same, kept, holds]
  · simp [same, kept]
  · rw [same, holds_all_iff]

/-- All of some predicates are true of everything only if each is. -/
theorem allOf_eq_always_iff (parts : List Predicate) :
    allOf parts = .always ↔ ∀ part ∈ parts, part = .always := by
  have dropped : (∀ part ∈ parts, part = .always) ↔ proper parts = [] := by
    simp only [List.eq_nil_iff_forall_not_mem, mem_proper_iff, not_and, ne_eq, not_not]
  rw [dropped]
  rcases allOf_cases parts with ⟨kept, same⟩ | ⟨part, kept, same⟩ | ⟨several, same⟩
  · simp [same, kept]
  · have constrains : part ≠ .always :=
      (mem_proper_iff.mp (kept ▸ List.mem_singleton_self part)).2
    simp [same, kept, constrains]
  · have kept : proper parts ≠ [] := List.ne_nil_of_length_pos (by omega)
    simp [same, kept]

/-- One of some predicates holds if one of them does, or if there is none. -/
theorem holds_anyOf_iff (record : Record) (parts : List Predicate) :
    (anyOf parts).holds record = true ↔ parts = [] ∨ ∃ part ∈ parts, part.holds record = true := by
  rcases anyOf_cases parts with ⟨trivially, same⟩ | ⟨part, rfl, _, same⟩ | ⟨several, _, same⟩
  · have holding : always.holds record = true := by rw [holds]
    rw [same]
    exact ⟨fun _ => trivially.imp_right fun inside => ⟨_, inside, holding⟩, fun _ => holding⟩
  · simp [same]
  · have kept : parts ≠ [] := List.ne_nil_of_length_pos (by omega)
    rw [same, holds_any_iff]
    simp [kept]

/-- One of some predicates is true of everything only if one of them is, or if there is none. -/
theorem anyOf_eq_always_iff (parts : List Predicate) :
    anyOf parts = .always ↔ parts = [] ∨ ∃ part ∈ parts, part = .always := by
  rw [exists_eq_right]
  rcases anyOf_cases parts with ⟨trivially, same⟩ | ⟨part, rfl, proper, same⟩ |
    ⟨several, constrained, same⟩
  · simp [same, trivially]
  · simp [same, proper, proper.symm]
  · have kept : parts ≠ [] := List.ne_nil_of_length_pos (by omega)
    simp [same, kept, constrained]

/-- The predicate of a group, given those of its nodes. -/
def ofGroup (all any : List Predicate) : Predicate := allOf [allOf all, anyOf any]

theorem holds_ofGroup_iff (record : Record) (all any : List Predicate) :
    (ofGroup all any).holds record = true ↔
      (∀ part ∈ all, part.holds record = true) ∧
      (any = [] ∨ ∃ part ∈ any, part.holds record = true) := by
  rw [ofGroup, holds_allOf_iff, List.forall_mem_cons, List.forall_mem_singleton, holds_allOf_iff,
    holds_anyOf_iff]

theorem ofGroup_eq_always_iff (all any : List Predicate) :
    ofGroup all any = .always ↔
      (∀ part ∈ all, part = .always) ∧ (any = [] ∨ ∃ part ∈ any, part = .always) := by
  rw [ofGroup, allOf_eq_always_iff, List.forall_mem_cons, List.forall_mem_singleton,
    allOf_eq_always_iff, anyOf_eq_always_iff]

theorem ofFilter_eq_fold (filter : Group) :
    ofFilter filter = filter.toNode.fold ofCondition (compileGroup ofGroup) :=
  rfl

/-- The predicate of a condition, by the kind of its operator. -/
theorem ofCondition_eq (condition : Condition) :
    ofCondition condition =
      match condition.operator.kind with
      | .comparison relation => condition.scalarArgument.map (.compare condition.field relation)
      | .member => condition.listArgument.map (.member condition.field)
      | .between => condition.boundsArgument.map fun (low, high) =>
          .all [.compare condition.field .greaterOrEqual low,
            .compare condition.field .lessOrEqual high]
      | .search occurrence =>
          condition.scalarArgument.map fun value => .search condition.field occurrence value.display
      | .isNull => .ok (.isNull condition.field)
      | .isNotNull => .ok (.isNotNull condition.field) := by
  unfold ofCondition
  cases condition.operator <;> rfl

/-- The predicate of a condition is a single test of its field, or connects the two tests of a
range. -/
theorem ofCondition_cases {condition : Condition} {predicate : Predicate}
    (compiled : ofCondition condition = .ok predicate) :
    predicate.field? = some condition.field ∨ ∃ low high, predicate =
      .all [.compare condition.field .greaterOrEqual low,
        .compare condition.field .lessOrEqual high] := by
  rw [ofCondition_eq] at compiled
  cases kind : condition.operator.kind with
  | between =>
      simp only [kind, map_eq_ok_iff] at compiled
      obtain ⟨⟨low, high⟩, _, rfl⟩ := compiled
      exact .inr ⟨low, high, rfl⟩
  | isNull =>
      simp only [kind, Except.ok.injEq] at compiled
      rw [← compiled]
      exact .inl rfl
  | isNotNull =>
      simp only [kind, Except.ok.injEq] at compiled
      rw [← compiled]
      exact .inl rfl
  | _ =>
      simp only [kind, map_eq_ok_iff] at compiled
      obtain ⟨_, _, rfl⟩ := compiled
      exact .inl rfl

end RowFilter.Predicate
