import Mathlib.Data.List.Forall2
import RowFilter.Filter.Argument
import RowFilter.Filter.Tree

/-!
# Compilers as folds

Every compiler is a fold over a filter that compiles the conditions one by one and combines what the
nodes of the two buckets gave. It succeeds where every condition does, whatever the conditions are
nested in. Two compilers are compared condition by condition: what relates their results for single
conditions, and is kept by their ways of combining, relates their results for whole filters.
-/

namespace RowFilter.Filter

variable {ε α β : Type}

@[simp] theorem ok_bind (a : α) (next : α → Except ε β) : Except.ok a >>= next = next a := rfl

/-- A sequence of two steps succeeds if the first does and the second does with what it gave. -/
theorem bind_eq_ok_iff (first : Except ε α) (second : α → Except ε β) (b : β) :
    first >>= second = .ok b ↔ ∃ a, first = .ok a ∧ second a = .ok b := by
  cases first with
  | error failure => simp [bind, Except.bind]
  | ok a => simp [bind, Except.bind]

theorem map_eq_ok_iff (f : α → β) (result : Except ε α) (b : β) :
    result.map f = .ok b ↔ ∃ a, result = .ok a ∧ f a = b := by
  cases result with
  | error failure => simp [Except.map]
  | ok a => simp [Except.map]

/-- A result that passes a check is a value. -/
theorem exists_ok_of_any {result : Except ε α} {check : α → Bool}
    (passed : result.toOption.any check = true) : ∃ a, result = .ok a ∧ check a = true := by
  cases result with
  | error failure => cases passed
  | ok a => exact ⟨a, rfl, passed⟩

/-- Results are collected if every one of them is a value. -/
theorem collect_eq_ok_iff (results : List (Except ε α)) (values : List α) :
    collect results = .ok values ↔ results = values.map .ok := by
  induction results generalizing values with
  | nil =>
      rw [collect, Except.ok.injEq, eq_comm, eq_comm (a := []), List.map_eq_nil_iff]
  | cons result rest ih =>
      simp only [collect, bind_eq_ok_iff, pure, Except.pure, Except.ok.injEq, ih]
      constructor
      · rintro ⟨value, rfl, values, rfl, rfl⟩
        rfl
      · intro same
        cases values with
        | nil => simp at same
        | cons value values =>
            rw [List.map_cons, List.cons.injEq] at same
            exact ⟨value, same.1, values, same.2, rfl⟩

/-- Collecting what a function gives relates the items and the values one by one. -/
theorem collect_map_eq_ok_iff {ι : Type} (f : ι → Except ε α) (items : List ι) (values : List α) :
    collect (items.map f) = .ok values ↔
      List.Forall₂ (fun item value => f item = .ok value) items values := by
  rw [collect_eq_ok_iff, ← List.forall₂_eq_eq_eq, List.forall₂_map_left_iff,
    List.forall₂_map_right_iff]

/-- Collecting mapped results gives the mapped values, or the same failure. -/
theorem collect_map (f : α → β) (results : List (Except ε α)) :
    collect (results.map (Except.map f)) = (collect results).map (List.map f) := by
  induction results with
  | nil => rfl
  | cons result rest ih =>
      rw [List.map_cons, collect, collect, ih]
      cases result with
      | error failure => rfl
      | ok value => cases collect rest <;> rfl

theorem map_eq_map_of_forall₂ {γ : Type} {R : α → β → Prop} {as : List α} {bs : List β} {f : α → γ}
    {g : β → γ} (related : List.Forall₂ R as bs) (same : ∀ a ∈ as, ∀ b, R a b → g b = f a) :
    bs.map g = as.map f := by
  induction related with
  | nil => rfl
  | cons head tail ih =>
      rw [List.forall_mem_cons] at same
      rw [List.map_cons, List.map_cons, same.1 _ head, ih same.2]

/-- Every result in a row is related to an item of the row that it came from. -/
theorem exists_of_mem_right {R : α → β → Prop} {as : List α} {bs : List β}
    (related : List.Forall₂ R as bs) {b : β} (hb : b ∈ bs) : ∃ a ∈ as, R a b := by
  induction related with
  | nil => simp at hb
  | @cons first second as bs head tail ih =>
      rcases List.mem_cons.mp hb with rfl | later
      · exact ⟨first, List.mem_cons_self, head⟩
      · obtain ⟨a, ha, found⟩ := ih later
        exact ⟨a, List.mem_cons_of_mem first ha, found⟩

/-- Induction over nodes: of a group the statement may be assumed for the nodes of both buckets. -/
@[elab_as_elim]
theorem Node.induction {motive : Node → Prop} (condition : ∀ c, motive (.condition c))
    (group : ∀ all any, (∀ node ∈ bucketNodes all, motive node) →
      (∀ node ∈ bucketNodes any, motive node) →
      motive (.group all any)) (node : Node) : motive node := by
  refine @Node.rec motive (fun bucket => ∀ node ∈ bucketNodes bucket, motive node)
    (fun nodes => ∀ node ∈ nodes, motive node) condition group ?_ ?_ ?_ ?_ node
  · intro node hnode
    simp [bucketNodes] at hnode
  · intro nodes each
    exact each
  · intro node hnode
    simp at hnode
  · intro head tail hhead htail node hnode
    rcases List.mem_cons.mp hnode with rfl | later
    · exact hhead
    · exact htail node later

theorem bucketNodes_map (f : α → β) (bucket : Option (List α)) :
    bucketNodes (bucket.map (List.map f)) = (bucketNodes bucket).map f := by
  cases bucket <;> rfl

@[simp] theorem Node.conditions_condition (c : Condition) : (Node.condition c).conditions = [c] :=
  Node.fold_condition _ _ c

theorem Node.conditions_group (all any : Option (List Node)) :
    (Node.group all any).conditions =
      (bucketNodes all).flatMap conditions ++ (bucketNodes any).flatMap conditions := by
  rw [conditions, Node.fold_group, bucketNodes_map, bucketNodes_map]
  rfl

/-- The result of a group, given the results of its nodes and how to combine them. -/
def compileGroup (combine : List α → List α → α) (all any : Option (List (Except ε α))) :
    Except ε α := do
  let all ← collect (bucketNodes all)
  let any ← collect (bucketNodes any)
  return combine all any

/-- A group is compiled if all its nodes are, and combines what they gave. -/
theorem fold_group_eq_ok_iff (condition : Condition → Except ε α) (combine : List α → List α → α)
    (all any : Option (List Node)) (a : α) :
    (Node.group all any).fold condition (compileGroup combine) = .ok a ↔
      ∃ alls anys,
        List.Forall₂ (fun node b => node.fold condition (compileGroup combine) = .ok b)
          (bucketNodes all) alls ∧
        List.Forall₂ (fun node b => node.fold condition (compileGroup combine) = .ok b)
          (bucketNodes any) anys ∧
        combine alls anys = a := by
  rw [Node.fold_group]
  simp only [compileGroup, bind_eq_ok_iff, bucketNodes_map, collect_map_eq_ok_iff, pure,
    Except.pure, Except.ok.injEq]
  constructor
  · rintro ⟨alls, hall, anys, hany, combined⟩
    exact ⟨alls, anys, hall, hany, combined⟩
  · rintro ⟨alls, anys, hall, hany, combined⟩
    exact ⟨alls, hall, anys, hany, combined⟩

/-- A map that respects the ways of combining can be applied to the results for conditions or to
that for the node. -/
theorem Node.fold_map {f : α → β} {condition : Condition → Except ε α}
    {combine : List α → List α → α} {combine' : List β → List β → β}
    (natural : ∀ alls anys, combine' (alls.map f) (anys.map f) = f (combine alls anys))
    (node : Node) :
    node.fold (fun c => (condition c).map f) (compileGroup combine') =
      (node.fold condition (compileGroup combine)).map f := by
  induction node using Node.induction with
  | condition c => rw [Node.fold_condition, Node.fold_condition]
  | group all any hall hany =>
      have mapped : ∀ nodes : List Node, (∀ node ∈ nodes, node.fold (fun c => (condition c).map f)
          (compileGroup combine') = (node.fold condition (compileGroup combine)).map f) →
          collect (nodes.map (Node.fold (fun c => (condition c).map f) (compileGroup combine'))) =
            (collect (nodes.map (Node.fold condition (compileGroup combine)))).map (List.map f) :=
          by
        intro nodes each
        rw [← collect_map, List.map_map]
        exact congrArg collect (List.map_congr_left each)
      rw [Node.fold_group, Node.fold_group, compileGroup, compileGroup, bucketNodes_map,
        bucketNodes_map, bucketNodes_map, bucketNodes_map, mapped _ hall, mapped _ hany]
      cases collect ((bucketNodes all).map (Node.fold condition (compileGroup combine))) with
      | error failure => rfl
      | ok alls =>
          cases collect ((bucketNodes any).map (Node.fold condition (compileGroup combine))) with
          | error failure => rfl
          | ok anys => exact congrArg Except.ok (natural alls anys)

private theorem exists_forall₂ {ι : Type} {R : α → β → Prop} {first : ι → α → Prop}
    {second : ι → β → Prop} {items : List ι} {as : List α} (given : List.Forall₂ first items as)
    (each : ∀ item ∈ items, ∀ a, first item a → ∃ b, second item b ∧ R a b) :
    ∃ bs, List.Forall₂ second items bs ∧ List.Forall₂ R as bs := by
  induction given with
  | nil => exact ⟨[], .nil, .nil⟩
  | cons head tail ih =>
      obtain ⟨b, hb, related⟩ := each _ List.mem_cons_self _ head
      obtain ⟨bs, hbs, later⟩ := ih fun item hitem => each item (List.mem_cons_of_mem _ hitem)
      exact ⟨b :: bs, .cons hb hbs, .cons related later⟩

/-- Two compilers related on conditions, with related ways of combining, are related on whole
nodes. -/
theorem Node.fold_related {R : α → β → Prop} {condition : Condition → Except ε α}
    {condition' : Condition → Except ε β}
    {combine : List α → List α → α} {combine' : List β → List β → β} {node : Node}
    (leaf : ∀ c ∈ node.conditions, ∀ a, condition c = .ok a → ∃ b, condition' c = .ok b ∧ R a b)
    (step : ∀ alls bs anys cs, List.Forall₂ R alls bs → List.Forall₂ R anys cs →
      R (combine alls anys) (combine' bs cs))
    {a : α} (compiled : node.fold condition (compileGroup combine) = .ok a) :
    ∃ b, node.fold condition' (compileGroup combine') = .ok b ∧ R a b := by
  induction node using Node.induction generalizing a with
  | condition c =>
      rw [Node.fold_condition] at compiled ⊢
      exact leaf c (by simp) a compiled
  | group all any hall hany =>
      obtain ⟨alls, anys, compiledAll, compiledAny, rfl⟩ :=
        (fold_group_eq_ok_iff _ _ _ _ _).mp compiled
      have leafAll : ∀ node ∈ bucketNodes all, ∀ c ∈ node.conditions,
          c ∈ (Node.group all any).conditions := by
        intro node hnode c hc
        rw [Node.conditions_group]
        exact List.mem_append_left _ (List.mem_flatMap.mpr ⟨node, hnode, hc⟩)
      have leafAny : ∀ node ∈ bucketNodes any, ∀ c ∈ node.conditions,
          c ∈ (Node.group all any).conditions := by
        intro node hnode c hc
        rw [Node.conditions_group]
        exact List.mem_append_right _ (List.mem_flatMap.mpr ⟨node, hnode, hc⟩)
      obtain ⟨bs, hbs, relatedAll⟩ := exists_forall₂ compiledAll fun node hnode _ hnodeCompiled =>
        hall node hnode (fun c hc => leaf c (leafAll node hnode c hc)) hnodeCompiled
      obtain ⟨cs, hcs, relatedAny⟩ := exists_forall₂ compiledAny fun node hnode _ hnodeCompiled =>
        hany node hnode (fun c hc => leaf c (leafAny node hnode c hc)) hnodeCompiled
      exact ⟨_, (fold_group_eq_ok_iff _ _ _ _ _).mpr ⟨bs, cs, hbs, hcs, rfl⟩,
        step alls bs anys cs relatedAll relatedAny⟩

/-- What holds of the results for conditions, and is kept by combining, holds of the results for
whole nodes. -/
theorem Node.fold_invariant {P : α → Prop} {condition : Condition → Except ε α}
    {combine : List α → List α → α} {node : Node}
    (leaf : ∀ c ∈ node.conditions, ∀ a, condition c = .ok a → P a)
    (step : ∀ alls anys, (∀ a ∈ alls, P a) → (∀ a ∈ anys, P a) → P (combine alls anys)) {a : α}
    (compiled : node.fold condition (compileGroup combine) = .ok a) : P a := by
  have members : ∀ {as bs : List α}, List.Forall₂ (fun a b => a = b ∧ P a) as bs →
      as = bs ∧ ∀ a ∈ as, P a := by
    intro as bs related
    induction related with
    | nil => simp
    | cons head tail ih =>
        obtain ⟨rfl, holds⟩ := head
        obtain ⟨rfl, later⟩ := ih
        exact ⟨rfl, List.forall_mem_cons.mpr ⟨holds, later⟩⟩
  have kept : ∃ b, node.fold condition (compileGroup combine) = .ok b ∧ a = b ∧ P a := by
    refine Node.fold_related (R := fun a b => a = b ∧ P a)
      (fun c hc a ha => ⟨a, ha, rfl, leaf c hc a ha⟩) ?_ compiled
    intro alls bs anys cs hall hany
    obtain ⟨rfl, holdAll⟩ := members hall
    obtain ⟨rfl, holdAny⟩ := members hany
    exact ⟨rfl, step alls anys holdAll holdAny⟩
  obtain ⟨_, _, _, holds⟩ := kept
  exact holds

/-- What is read off the result for a node can be computed without the result, if for conditions it
can, and for groups it depends only on what is read off the results for their nodes. -/
theorem Node.fold_reading {f : α → β} {condition : Condition → Except ε α}
    {combine : List α → List α → α} {read : Condition → β} {combineRead : List β → List β → β}
    (leaf : ∀ c a, condition c = .ok a → f a = read c)
    (step : ∀ alls anys, f (combine alls anys) = combineRead (alls.map f) (anys.map f))
    {node : Node} {a : α} (compiled : node.fold condition (compileGroup combine) = .ok a) :
    f a = node.fold read fun all any => combineRead (bucketNodes all) (bucketNodes any) := by
  induction node using Node.induction generalizing a with
  | condition c =>
      rw [Node.fold_condition] at compiled ⊢
      exact leaf c a compiled
  | group all any hall hany =>
      obtain ⟨alls, anys, compiledAll, compiledAny, rfl⟩ :=
        (fold_group_eq_ok_iff _ _ _ _ _).mp compiled
      rw [step, Node.fold_group, bucketNodes_map, bucketNodes_map,
        map_eq_map_of_forall₂ compiledAll fun node member _ found => hall node member found,
        map_eq_map_of_forall₂ compiledAny fun node member _ found => hany node member found]

end RowFilter.Filter
