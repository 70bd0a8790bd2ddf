import RowFilter.Proofs.Filter.WrittenTree
import RowFilter.Proofs.Json.Nesting

/-!
# Depth of filters

How deeply groups are nested in a filter is how deeply a fold over the filter recurses: a fold that
may enter only so many groups, one inside the other, gives a result exactly for filters that are no
deeper. A group is written as an object or a list with lists for its buckets, so each group but the
innermost takes two levels of the value that it is written as.
-/

namespace RowFilter.Filter

open Json (lastNamed)

variable {β : Type}

theorem greatest_le_iff {numbers : List Nat} {bound : Nat} :
    Group.greatest numbers ≤ bound ↔ ∀ n ∈ numbers, n ≤ bound := by
  induction numbers with
  | nil => simp [Group.greatest]
  | cons n rest ih =>
      rw [Group.greatest, List.foldr_cons, ← Group.greatest, max_le_iff, ih, List.forall_mem_cons]

/-! ### Depth -/

/-- How deeply groups are nested in a node; a condition has depth zero. -/
def Node.depth (node : Node) : Nat :=
  node.fold (fun _ => 0) fun all any =>
    1 + max (Group.greatest (bucketNodes all)) (Group.greatest (bucketNodes any))

theorem Node.depth_condition (c : Condition) : (Node.condition c).depth = 0 :=
  Node.fold_condition _ _ c

/-- A group is no deeper than a bound if its nodes are less deep. -/
theorem Node.depth_group_le_iff {all any : Option (List Node)} {bound : Nat} :
    (Node.group all any).depth ≤ bound + 1 ↔
      (∀ node ∈ bucketNodes all, node.depth ≤ bound) ∧
        ∀ node ∈ bucketNodes any, node.depth ≤ bound := by
  rw [depth, Node.fold_group, bucketNodes_map, bucketNodes_map, Nat.add_comm 1,
    Nat.add_le_add_iff_right, max_le_iff, greatest_le_iff, greatest_le_iff, List.forall_mem_map,
    List.forall_mem_map]
  rfl

theorem Node.one_le_depth_group (all any : Option (List Node)) :
    1 ≤ (Node.group all any).depth := by
  rw [depth, Node.fold_group]
  exact Nat.le_add_right 1 _

theorem Group.depth_eq (group : Group) : group.depth = group.toNode.depth := rfl

/-! ### Folds that stop -/

/-- What the nodes of a bucket give, if each gives something. -/
def foldBucketWithin (node : Node → Option β) : Option (List Node) → Option (Option (List β))
  | none => some none
  | some nodes => (nodes.mapM node).map some

/-- Computes bottom-up like a fold, but enters no more than so many groups, one inside the other:
where a group is nested more deeply it gives nothing. -/
def Node.foldWithin (condition : Condition → β) (group : Option (List β) → Option (List β) → β) :
    Nat → Node → Option β
  | _, .condition c => some (condition c)
  | 0, .group _ _ => none
  | levels + 1, .group all any => do
    let all ← foldBucketWithin (foldWithin condition group levels) all
    let any ← foldBucketWithin (foldWithin condition group levels) any
    return group all any

/-- A fold over a group that enters no more than so many groups, one inside the other. -/
def Group.foldWithin (levels : Nat) (condition : Condition → β)
    (group : Option (List β) → Option (List β) → β) (g : Group) : Option β :=
  g.toNode.foldWithin condition group levels

theorem mapM_eq_some_iff {α : Type} {f : α → Option β} {g : α → β} {P : α → Prop} {items : List α}
    (each : ∀ item ∈ items, ∀ b, f item = some b ↔ P item ∧ g item = b) (values : List β) :
    items.mapM f = some values ↔ (∀ item ∈ items, P item) ∧ items.map g = values := by
  induction items generalizing values with
  | nil => simp [eq_comm]
  | cons item rest ih =>
      rw [List.forall_mem_cons] at each
      simp only [List.mapM_cons, Option.bind_eq_bind, Option.bind_eq_some_iff, each.1, ih each.2,
        List.forall_mem_cons, List.map_cons, Option.pure_def, Option.some.injEq]
      constructor
      · rintro ⟨b, ⟨holds, rfl⟩, bs, ⟨others, rfl⟩, rfl⟩
        exact ⟨⟨holds, others⟩, rfl⟩
      · rintro ⟨⟨holds, others⟩, rfl⟩
        exact ⟨_, ⟨holds, rfl⟩, _, ⟨others, rfl⟩, rfl⟩

theorem foldBucketWithin_eq_some_iff {f : Node → Option β} {g : Node → β} {P : Node → Prop}
    {bucket : Option (List Node)}
    (each : ∀ node ∈ bucketNodes bucket, ∀ b, f node = some b ↔ P node ∧ g node = b)
    (values : Option (List β)) :
    foldBucketWithin f bucket = some values ↔
      (∀ node ∈ bucketNodes bucket, P node) ∧ bucket.map (List.map g) = values := by
  cases bucket with
  | none => simp [foldBucketWithin, bucketNodes]
  | some nodes =>
      change ∀ node ∈ nodes, ∀ b, _ at each
      rw [foldBucketWithin, Option.map_eq_some_iff, Option.map_some]
      simp only [mapM_eq_some_iff each]
      constructor
      · rintro ⟨bs, ⟨holds, rfl⟩, rfl⟩
        exact ⟨holds, rfl⟩
      · rintro ⟨holds, rfl⟩
        exact ⟨_, ⟨holds, rfl⟩, rfl⟩

/-- A fold that stops gives what the fold gives, exactly if the node is not too deep. -/
theorem Node.foldWithin_eq_some_iff {condition : Condition → β}
    {group : Option (List β) → Option (List β) → β} {levels : Nat} {node : Node} {b : β} :
    node.foldWithin condition group levels = some b ↔
      node.depth ≤ levels ∧ node.fold condition group = b := by
  induction node using Node.induction generalizing levels b with
  | condition c => simp [foldWithin, depth_condition]
  | group all any hall hany =>
      cases levels with
      | zero =>
          have deep := one_le_depth_group all any
          simp only [foldWithin, reduceCtorEq, false_iff]
          omega
      | succ levels =>
          have first := foldBucketWithin_eq_some_iff fun node hnode => @hall node hnode levels
          have second := foldBucketWithin_eq_some_iff fun node hnode => @hany node hnode levels
          simp only [foldWithin, Option.bind_eq_bind, Option.bind_eq_some_iff, first, second,
            Node.depth_group_le_iff, Node.fold_group, Option.pure_def, Option.some.injEq]
          constructor
          · rintro ⟨_, ⟨low, rfl⟩, _, ⟨high, rfl⟩, rfl⟩
            exact ⟨⟨low, high⟩, rfl⟩
          · rintro ⟨⟨low, high⟩, rfl⟩
            exact ⟨_, ⟨low, rfl⟩, _, ⟨high, rfl⟩, rfl⟩

/-- Whether a function of filters is a fold, and what it gives for a filter is found by entering no
more than so many groups, one inside the other. -/
def FoldsWithin (levels : Nat) (walk : Group → β) (filter : Group) : Prop :=
  ∃ condition group, (∀ other : Group, walk other = other.fold condition group) ∧
    filter.foldWithin levels condition group = some (walk filter)

theorem FoldsWithin.of_depth_le {levels : Nat} {walk : Group → β} {filter : Group}
    {condition : Condition → β} {group : Option (List β) → Option (List β) → β}
    (fold : ∀ other : Group, walk other = other.fold condition group)
    (shallow : filter.depth ≤ levels) : FoldsWithin levels walk filter :=
  ⟨condition, group, fold, Node.foldWithin_eq_some_iff.mpr ⟨shallow, (fold filter).symm⟩⟩

/-! ### Depth and nesting -/

/-- Whether what mirrors a value is no deeper than the value is nested, as a node and as a
bucket. -/
private structure BoundsDepth (whole : Json) : Prop where
  node : ∀ {node : Node}, Mirrors node whole → 2 * node.depth ≤ whole.nesting + 1
  bucket : ∀ {bucket : Option (List Node)}, BucketMirrors Mirrors bucket (some whole) →
    ∀ node ∈ bucketNodes bucket, 2 * node.depth ≤ whole.nesting

/-- The nodes of a bucket are no deeper than its group is nested. -/
private theorem depth_of_bucketMirrors {written : Option Json} {bucket : Option (List Node)}
    {nesting : Nat}
    (bounds : ∀ whole, written = some whole → BoundsDepth whole ∧ whole.nesting < nesting)
    (mirrors : BucketMirrors Mirrors bucket written) :
    ∀ node ∈ bucketNodes bucket, node.depth ≤ (nesting - 1) / 2 := by
  intro node hnode
  cases written with
  | none =>
      cases mirrors
      cases hnode
  | some whole =>
      obtain ⟨bound, less⟩ := bounds whole rfl
      have deep := bound.bucket mirrors node hnode
      omega

private theorem boundsDepth (whole : Json) : BoundsDepth whole := by
  induction whole using Json.induction with
  | null =>
      constructor
      · intro _ mirrors
        cases mirrors
      · intro _ mirrors node hnode
        cases mirrors
        cases hnode
  | boolean b => constructor <;> (intro _ mirrors; cases mirrors)
  | number n => constructor <;> (intro _ mirrors; cases mirrors)
  | string text => constructor <;> (intro _ mirrors; cases mirrors)
  | array items ih =>
      constructor
      · intro node mirrors
        cases mirrors with
        | @list all any _ first second =>
            have place : ∀ (place : Nat) (whole : Json), items[place]? = some whole →
                BoundsDepth whole ∧ whole.nesting < (Json.array items).nesting :=
              fun place whole found =>
                have member := List.mem_of_getElem? found
                ⟨ih whole member, Json.nesting_lt_of_mem_items member⟩
            have deep := Node.depth_group_le_iff.mpr
              ⟨depth_of_bucketMirrors (place 0) first, depth_of_bucketMirrors (place 1) second⟩
            have positive : 1 ≤ (Json.array items).nesting := by
              rw [Json.nesting]
              exact Nat.le_add_right 1 _
            omega
      · intro bucket mirrors node hnode
        cases mirrors with
        | list each =>
            obtain ⟨item, hitem, mirrors⟩ := exists_of_mem_right each.flip hnode
            have deep := (ih item hitem).node mirrors
            have less := Json.nesting_lt_of_mem_items hitem
            omega
  | object members ih =>
      constructor
      · intro node mirrors
        cases mirrors with
        | condition =>
            rw [Node.depth_condition]
            exact Nat.zero_le _
        | @object all any _ _ first second =>
            have named : ∀ (name : String) (whole : Json), lastNamed name members = some whole →
                BoundsDepth whole ∧ whole.nesting < (Json.object members).nesting :=
              fun name whole found =>
                have member := Json.mem_of_lastNamed found
                ⟨ih _ member, Json.nesting_lt_of_mem_members member⟩
            have deep := Node.depth_group_le_iff.mpr
              ⟨depth_of_bucketMirrors (named "and") first,
                depth_of_bucketMirrors (named "or") second⟩
            have positive : 1 ≤ (Json.object members).nesting := by
              rw [Json.nesting]
              exact Nat.le_add_right 1 _
            omega
      · intro _ mirrors
        cases mirrors

/-- A node takes two levels of what it is written as for each of its groups but the innermost. -/
theorem depth_of_mirrors {node : Node} {whole : Json} (mirrors : Mirrors node whole) :
    2 * node.depth ≤ whole.nesting + 1 :=
  (boundsDepth whole).node mirrors

end RowFilter.Filter
