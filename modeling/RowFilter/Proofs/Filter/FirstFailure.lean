import RowFilter.Proofs.Filter.Folding

/-!
# The first failure

A compiler reports a single failure. It is that of the first condition that has one, in the order in
which the conditions stand in the filter: how the conditions are nested, and what the groups make of
the results, has no part in it.
-/

namespace RowFilter.Filter

variable {ε α β : Type}

/-- The failure of a result, if it is one. -/
def failure? : Except ε α → Option ε
  | .error failure => some failure
  | .ok _ => none

theorem failure?_eq_some_iff (result : Except ε α) (failure : ε) :
    failure? result = some failure ↔ result = .error failure := by
  cases result <;> simp [failure?]

theorem failure?_eq_none_iff (result : Except ε α) :
    failure? result = none ↔ ∃ a, result = .ok a := by
  cases result <;> simp [failure?]

@[simp] theorem failure?_map (f : α → β) (result : Except ε α) :
    failure? (result.map f) = failure? result := by
  cases result <;> rfl

theorem findSome?_congr {ι : Type} {f g : ι → Option α} {items : List ι}
    (same : ∀ item ∈ items, f item = g item) : items.findSome? f = items.findSome? g := by
  induction items with
  | nil => rfl
  | cons item rest ih =>
      rw [List.forall_mem_cons] at same
      rw [List.findSome?_cons, List.findSome?_cons, same.1, ih same.2]

/-- Collecting results fails as the first of them that does. -/
theorem failure?_collect (results : List (Except ε α)) :
    failure? (collect results) = results.findSome? failure? := by
  induction results with
  | nil => rfl
  | cons result rest ih =>
      rw [collect, List.findSome?_cons, ← ih]
      cases result with
      | error failure => rfl
      | ok value => cases collect rest <;> rfl

/-- A group fails as its first bucket does, and otherwise as its second does. -/
theorem failure?_compileGroup (combine : List α → List α → α)
    (all any : Option (List (Except ε α))) :
    failure? (compileGroup combine all any) =
      ((bucketNodes all).findSome? failure?).or ((bucketNodes any).findSome? failure?) := by
  rw [← failure?_collect, ← failure?_collect, compileGroup]
  cases collect (bucketNodes all) with
  | error failure => rfl
  | ok alls => cases collect (bucketNodes any) <;> rfl

/-- A node fails as the first of its conditions that does. -/
theorem failure?_fold (condition : Condition → Except ε α) (combine : List α → List α → α)
    (node : Node) :
    failure? (node.fold condition (compileGroup combine)) =
      node.conditions.findSome? fun c => failure? (condition c) := by
  induction node using Node.induction with
  | condition c =>
      rw [Node.fold_condition, Node.conditions_condition, List.findSome?_singleton]
  | group all any hall hany =>
      have bucket : ∀ nodes : List Node,
          (∀ node ∈ nodes, failure? (node.fold condition (compileGroup combine)) =
            node.conditions.findSome? fun c => failure? (condition c)) →
          (nodes.map (Node.fold condition (compileGroup combine))).findSome? failure? =
            (nodes.flatMap Node.conditions).findSome? fun c => failure? (condition c) := by
        intro nodes each
        induction nodes with
        | nil => rfl
        | cons node rest ih =>
            rw [List.forall_mem_cons] at each
            rw [List.map_cons, List.findSome?_cons, each.1, ih each.2, List.flatMap_cons,
              List.findSome?_append]
            cases node.conditions.findSome? fun c => failure? (condition c) <;> rfl
      rw [Node.fold_group, failure?_compileGroup, bucketNodes_map, bucketNodes_map,
        Node.conditions_group, List.findSome?_append, bucket _ hall, bucket _ hany]

end RowFilter.Filter
