import RowFilter.Filter.Operator
import RowFilter.Filter.Value

/-!
# Filter trees

A filter is a group. A group has two buckets of nodes, each of which may be absent: all nodes of the
first must hold, and at least one of the second unless it is absent or empty. A node is a condition
on one field or a group again. What is computed from a filter is computed by one pass over its
nodes, `Node.fold`.
-/

namespace RowFilter.Filter

/-- A condition: one field, one operator, and a value unless it is absent. -/
structure Condition where
  /-- The name of the field. -/
  field : String
  /-- How the field is compared. -/
  operator : Operator
  /-- What it is compared with; an absent value is not the same as a null one. -/
  value : Option Value

/-- A node of a filter tree. -/
inductive Node where
  /-- A condition. -/
  | condition (condition : Condition)
  /-- A group with its two buckets. -/
  | group (all any : Option (List Node))

/-- A group: the nodes that must all hold, and the nodes of which one must hold. -/
structure Group where
  /-- The nodes that must all hold. -/
  all : Option (List Node) := none
  /-- The nodes of which at least one must hold. -/
  any : Option (List Node) := none

/-- A group as a node. -/
def Group.toNode (group : Group) : Node := .group group.all group.any

mutual

/-- Computes bottom-up: from each condition, and from each group given what its nodes gave. -/
def Node.fold {β : Type} (condition : Condition → β)
    (group : Option (List β) → Option (List β) → β) : Node → β
  | .condition c => condition c
  | .group all any => group (foldBucket condition group all) (foldBucket condition group any)

/-- What the nodes of a bucket give. -/
def foldBucket {β : Type} (condition : Condition → β)
    (group : Option (List β) → Option (List β) → β) : Option (List Node) → Option (List β)
  | none => none
  | some nodes => some (foldNodes condition group nodes)

/-- What each node gives. -/
def foldNodes {β : Type} (condition : Condition → β)
    (group : Option (List β) → Option (List β) → β) : List Node → List β
  | [] => []
  | node :: rest => Node.fold condition group node :: foldNodes condition group rest

end

theorem foldNodes_eq_map {β : Type} (condition : Condition → β)
    (group : Option (List β) → Option (List β) → β) (nodes : List Node) :
    foldNodes condition group nodes = nodes.map (Node.fold condition group) := by
  induction nodes with
  | nil => rfl
  | cons node rest ih => simp [foldNodes, ih]

theorem foldBucket_eq_map {β : Type} (condition : Condition → β)
    (group : Option (List β) → Option (List β) → β) (bucket : Option (List Node)) :
    foldBucket condition group bucket = bucket.map (List.map (Node.fold condition group)) := by
  cases bucket with
  | none => rfl
  | some nodes => simp [foldBucket, foldNodes_eq_map]

/-- A fold gives for a condition what it says for conditions. -/
@[simp] theorem Node.fold_condition {β : Type} (condition : Condition → β)
    (group : Option (List β) → Option (List β) → β) (c : Condition) :
    (Node.condition c).fold condition group = condition c := by
  simp [Node.fold]

/-- A fold gives for a group what it says for groups, from what it gives for the nodes. -/
theorem Node.fold_group {β : Type} (condition : Condition → β)
    (group : Option (List β) → Option (List β) → β) (all any : Option (List Node)) :
    (Node.group all any).fold condition group =
      group (all.map (List.map (Node.fold condition group)))
        (any.map (List.map (Node.fold condition group))) := by
  simp [Node.fold, foldBucket_eq_map]

/-- The nodes of a bucket, none if it is absent. -/
def bucketNodes {β : Type} (bucket : Option (List β)) : List β := bucket.getD []

/-- The conditions of a node in order: depth first, the bucket of all before the bucket of any. -/
def Node.conditions (node : Node) : List Condition :=
  node.fold (fun c => [c]) fun all any => (bucketNodes all).flatten ++ (bucketNodes any).flatten

namespace Group

/-- A fold over a group. -/
def fold {β : Type} (condition : Condition → β) (group : Option (List β) → Option (List β) → β)
    (g : Group) : β :=
  g.toNode.fold condition group

/-- Whether neither bucket holds a node. -/
def isEmpty (group : Group) : Bool :=
  (bucketNodes group.all).isEmpty && (bucketNodes group.any).isEmpty

/-- The greatest of some numbers, zero of none. -/
def greatest (numbers : List Nat) : Nat := numbers.foldr max 0

/-- How deeply groups are nested; a group of conditions has depth one. -/
def depth (group : Group) : Nat :=
  group.fold (fun _ => 0) fun all any =>
    1 + max (greatest (bucketNodes all)) (greatest (bucketNodes any))

/-- The number of conditions. -/
def conditionCount (group : Group) : Nat :=
  group.fold (fun _ => 1) fun all any =>
    Number.total (bucketNodes all) + Number.total (bucketNodes any)

/-- The conditions of a group in order. -/
def conditions (group : Group) : List Condition := group.toNode.conditions

end Group

end RowFilter.Filter
