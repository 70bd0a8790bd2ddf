import RowFilter.Filter.Encoding
import RowFilter.Proofs.Filter.Decoding
import RowFilter.Proofs.Json.Readable

/-!
# Decoded filters encoded again

Many values are decoded as one filter: a bucket may be missing or null, a group may be a list, an
operator an object, a whole number beyond 64 bits with sign a double. What a filter is encoded as is
one of these values. A filter that was decoded is decoded again from what it is encoded as.
-/

namespace RowFilter.Filter

open Number
open Json (Readable lastNamed)

/-! ### Values of conditions -/

theorem Value.ofInt_toInt (n : Int64) : Value.ofInt n.toInt = .integer n := by
  have half : ((twoTo 63 : Nat) : Int) = 2 ^ 63 := rfl
  have low := n.le_toInt
  have high := n.toInt_lt
  rw [Value.ofInt, if_pos, Int64.ofInt_toInt]
  simp only [Bool.and_eq_true, decide_eq_true_eq, half]
  exact ⟨low, high⟩

/-- A whole number of 64 bits, with or without sign, is an integer or a small double. -/
theorem Value.ofInt_cases {n : Int} (range : (Json.Numeral.integer n).InRange) :
    (∃ m : Int64, Value.ofInt n = .integer m) ∨
      ∃ x : Double, Value.ofInt n = .double x ∧ x.isFinite = true := by
  rw [Value.ofInt]
  split
  · exact .inl ⟨_, rfl⟩
  · refine .inr ⟨_, rfl, (Double.isSmall_ofInt ?_).isFinite⟩
    have half : twoTo 63 = 9223372036854775808 := by decide
    have whole : twoTo 64 = 18446744073709551616 := by decide
    rw [Json.Numeral.InRange, half, whole] at range
    rw [whole]
    omega

theorem Value.ofJsonItems_eq_map (items : List Json) :
    Value.ofJsonItems items = items.map Value.ofJson := by
  induction items with
  | nil => rfl
  | cons item rest ih => rw [Value.ofJsonItems, ih, List.map_cons]

theorem Value.toJsonItems_eq_map (items : List Value) :
    Value.toJsonItems items = items.map Value.toJson := by
  induction items with
  | nil => rfl
  | cons item rest ih => rw [Value.toJsonItems, ih, List.map_cons]

/-- Whether a value is encoded as a readable document that it is decoded from. -/
structure Value.Reencodes (depth : Nat) (value : Value) : Prop where
  readable : Readable depth value.toJson
  decoded : Value.ofJson value.toJson = value

namespace Value.Reencodes

variable {depth : Nat}

theorem integer (n : Int64) : Reencodes depth (.integer n) where
  readable := by
    have half : ((twoTo 63 : Nat) : Int) = 2 ^ 63 := rfl
    have whole : ((twoTo 64 : Nat) : Int) = 2 ^ 64 := rfl
    have low := n.le_toInt
    have high := n.toInt_lt
    refine .number ?_
    rw [Json.Numeral.InRange, half, whole]
    omega
  decoded := Value.ofInt_toInt n

theorem double {x : Double} (finite : x.isFinite = true) : Reencodes depth (.double x) := by
  have encoded : Value.toJson (.double x) = .number (.double x) := by
    rw [Value.toJson, Json.ofDouble, if_pos finite]
  constructor
  · rw [encoded]
    exact .number finite
  · rw [encoded]
    rfl

theorem list {items : List Value} (each : ∀ item ∈ items, Reencodes depth item) :
    Reencodes (depth + 1) (.list items) where
  readable := by
    rw [Value.toJson, Value.toJsonItems_eq_map]
    exact .array (List.forall_mem_map.mpr fun item hitem => (each item hitem).readable)
  decoded := by
    rw [Value.toJson, Value.toJsonItems_eq_map, Value.ofJson, Value.ofJsonItems_eq_map,
      List.map_map]
    refine congrArg Value.list ?_
    exact (List.map_congr_left fun item hitem => (each item hitem).decoded).trans (List.map_id _)

/-- What a readable value is decoded as is decoded again from what it is encoded as. -/
theorem ofJson {json : Json} (readable : Readable depth json) :
    Reencodes depth (Value.ofJson json) := by
  induction readable with
  | null => exact ⟨.null, rfl⟩
  | boolean b => exact ⟨.boolean b, rfl⟩
  | string text => exact ⟨.string text, rfl⟩
  | @number depth n range =>
      cases n with
      | integer n =>
          rw [Value.ofJson]
          rcases Value.ofInt_cases range with ⟨m, same⟩ | ⟨x, same, finite⟩
          · rw [same]
            exact integer m
          · rw [same]
            exact double finite
      | double x => exact double range
  | @array depth items _ ih =>
      rw [Value.ofJson, Value.ofJsonItems_eq_map]
      exact list (List.forall_mem_map.mpr ih)
  | object ordered each => exact ⟨.object ordered each, rfl⟩

end Value.Reencodes

/-! ### Nodes -/

/-- The value of a node. -/
def Node.toJson (node : Node) : Json := node.fold Condition.toJson groupObject

/-- The member of a bucket in the object of a group; an absent bucket has none. -/
def bucketMembers (name : String) (bucket : Option (List Node)) : List (String × Json) :=
  (bucket.map fun nodes => (name, .array (nodes.map Node.toJson))).toList

theorem Node.toJson_group (all any : Option (List Node)) :
    (Node.group all any).toJson =
      .object (bucketMembers "and" all ++ bucketMembers "or" any) := by
  rw [Node.toJson, Node.fold_group]
  cases all <;> cases any <;> rfl

/-- Whether a node is encoded as a readable value that it is decoded from. -/
structure Node.Reencodes (depth : Nat) (node : Node) : Prop where
  readable : Readable depth node.toJson
  decoded : nodeOfJson node.toJson = .ok node

/-- Whether a bucket is absent, or each of its nodes is decoded again from what it is encoded as. -/
inductive BucketReencodes : Nat → Option (List Node) → Prop
  | absent {depth : Nat} : BucketReencodes depth none
  | list {depth : Nat} {nodes : List Node} (each : ∀ node ∈ nodes, node.Reencodes depth) :
      BucketReencodes (depth + 1) (some nodes)

theorem isCondition_cons_field (value : Json) (members : List (String × Json)) :
    isCondition (("field", value) :: members) = true := by
  rw [isCondition, List.lookup_cons_self]
  rfl

/-- A field and an operator are decoded as the parts they were encoded from, before more members. -/
theorem conditionOfMembers_cons (field : String) (operator : Operator)
    (more : List (String × Json)) :
    conditionOfMembers (("field", .string field) :: ("operator", .string operator.name) :: more) =
      (more.foldlM (fun parts member => ConditionParts.add parts member.1 member.2)
        { field := some field, operator := some operator }).bind ConditionParts.finish := by
  cases operator <;> rfl

/-- A condition is decoded again from what it is encoded as, if its value is. -/
theorem Node.reencodes_condition {depth : Nat} {condition : Condition}
    (value : ∀ v ∈ condition.value, v.Reencodes depth) :
    (Node.condition condition).Reencodes (depth + 1) := by
  obtain ⟨field, operator, written⟩ := condition
  cases written with
  | none =>
      have encoded : (Node.condition ⟨field, operator, none⟩).toJson =
          .object [("field", .string field), ("operator", .string operator.name)] := rfl
      have ordered : ["field", "operator"].Pairwise (· < ·) := by decide
      constructor
      · rw [encoded]
        refine .object (Record.isOrdered_iff_names.mpr ordered) ?_
        simp [Readable.string]
      · rw [encoded, nodeOfJson, if_pos (isCondition_cons_field _ _)]
        rw [conditionOfMembers_cons]
        rfl
  | some v =>
      obtain ⟨readable, decoded⟩ := value v rfl
      have encoded : (Node.condition ⟨field, operator, some v⟩).toJson =
          .object [("field", .string field), ("operator", .string operator.name),
            ("value", v.toJson)] := rfl
      have ordered : ["field", "operator", "value"].Pairwise (· < ·) := by decide
      constructor
      · rw [encoded]
        refine .object (Record.isOrdered_iff_names.mpr ordered) ?_
        simp [Readable.string, readable]
      · rw [encoded, nodeOfJson, if_pos (isCondition_cons_field _ _)]
        have last : ConditionParts.add { field := some field, operator := some operator } "value"
            v.toJson = .ok ⟨some field, some operator, some v⟩ := by
          rw [ConditionParts.add, if_neg (by decide), if_neg (by decide), if_pos rfl, decoded]
        rw [conditionOfMembers_cons, List.foldlM_cons, last]
        rfl

/-- The nodes of a bucket are decoded again from a list of what they are encoded as. -/
theorem bucketOfJson_toJson {depth : Nat} {nodes : List Node}
    (each : ∀ node ∈ nodes, node.Reencodes depth) :
    bucketOfJson (.array (nodes.map Node.toJson)) = .ok (some nodes) := by
  refine bucketOfJson_eq_ok_iff.mpr (.inr ⟨_, nodes, rfl, rfl, ?_⟩)
  rw [List.forall₂_map_left_iff, List.forall₂_same]
  exact fun node hnode => (each node hnode).decoded

theorem readable_bucketMembers {depth : Nat} {bucket : Option (List Node)}
    (reencodes : BucketReencodes depth bucket) (name : String) :
    ∀ member ∈ bucketMembers name bucket, Readable depth member.2 := by
  cases reencodes with
  | absent => exact List.forall_mem_nil _
  | list each =>
      refine List.forall_mem_singleton.mpr (.array ?_)
      exact List.forall_mem_map.mpr fun node hnode => (each node hnode).readable

theorem isOrdered_bucketMembers (all any : Option (List Node)) :
    Record.IsOrdered (bucketMembers "and" all ++ bucketMembers "or" any) := by
  rw [Record.isOrdered_iff_names]
  cases all with
  | none =>
      cases any with
      | none => exact .nil
      | some others => exact List.pairwise_singleton _ _
  | some nodes =>
      cases any with
      | none => exact List.pairwise_singleton _ _
      | some others => exact show ["and", "or"].Pairwise (· < ·) by decide

theorem isCondition_bucketMembers (all any : Option (List Node)) :
    isCondition (bucketMembers "and" all ++ bucketMembers "or" any) = false := by
  cases all <;> cases any <;> rfl

/-- A group is decoded again from what it is encoded as, if its buckets are. -/
theorem Node.reencodes_group {depth : Nat} {all any : Option (List Node)}
    (hall : BucketReencodes depth all) (hany : BucketReencodes depth any) :
    (Node.group all any).Reencodes (depth + 1) where
  readable := by
    rw [Node.toJson_group]
    exact .object (isOrdered_bucketMembers all any) (List.forall_mem_append.mpr
      ⟨readable_bucketMembers hall "and", readable_bucketMembers hany "or"⟩)
  decoded := by
    have second : groupOfMembers all none (bucketMembers "or" any) = .ok (.group all any) := by
      cases hany with
      | absent => rfl
      | list each =>
          rw [bucketMembers, Option.map_some, Option.toList_some, groupOfMembers,
            if_neg (by decide), if_pos rfl, bucketOfJson_toJson each, ok_bind]
          rfl
    have first : groupOfMembers none none (bucketMembers "and" all ++ bucketMembers "or" any) =
        groupOfMembers all none (bucketMembers "or" any) := by
      cases hall with
      | absent => rfl
      | list each =>
          rw [bucketMembers, Option.map_some, Option.toList_some, List.singleton_append,
            groupOfMembers, if_pos rfl, bucketOfJson_toJson each, ok_bind]
    rw [Node.toJson_group, nodeOfJson, isCondition_bucketMembers, if_neg Bool.false_ne_true, first,
      second]

/-! ### Decoded nodes -/

/-- Whether what a value is decoded as is decoded again from what it is encoded as, for a node and
for a bucket. -/
private structure DecodesToReencoding (depth : Nat) (json : Json) : Prop where
  node : ∀ {node : Node}, nodeOfJson json = .ok node → node.Reencodes depth
  bucket : ∀ {bucket : Option (List Node)}, bucketOfJson json = .ok bucket →
    BucketReencodes depth bucket

private theorem reencodes_of_bucketOr {depth : Nat} {found : Option Json}
    {bucket : Option (List Node)}
    (each : ∀ json, found = some json → DecodesToReencoding depth json)
    (decoded : bucketOr none found = .ok bucket) : BucketReencodes depth bucket := by
  cases found with
  | none =>
      obtain rfl := Except.ok.inj decoded
      exact .absent
  | some json => exact (each json rfl).bucket decoded

private theorem decodesToReencoding {depth : Nat} {json : Json} (readable : Readable depth json) :
    DecodesToReencoding depth json := by
  induction readable with
  | null =>
      constructor
      · intro node decoded
        cases decoded
      · intro bucket decoded
        obtain rfl := Except.ok.inj decoded
        exact .absent
  | boolean b => constructor <;> (intro _ decoded; cases decoded)
  | number range => constructor <;> (intro _ decoded; cases decoded)
  | string text => constructor <;> (intro _ decoded; cases decoded)
  | @array depth items _ ih =>
      have place : ∀ (place : Nat) (json : Json), items[place]? = some json →
          DecodesToReencoding depth json :=
        fun place json found => ih json (List.mem_of_getElem? found)
      constructor
      · intro node decoded
        cases decodedFrom_of_nodeOfJson decoded with
        | array first second =>
            exact Node.reencodes_group (reencodes_of_bucketOr (place 0) first)
              (reencodes_of_bucketOr (place 1) second)
      · intro bucket decoded
        rcases bucketOfJson_eq_ok_iff.mp decoded with ⟨null, _⟩ | ⟨_, nodes, same, rfl, each⟩
        · cases null
        · obtain rfl := Json.array.inj same
          refine .list fun node hnode => ?_
          obtain ⟨item, hitem, one⟩ := exists_of_mem_right each hnode
          exact (ih item hitem).node one
  | @object depth members _ readable ih =>
      have named : ∀ (name : String) (json : Json), lastNamed name members = some json →
          DecodesToReencoding depth json :=
        fun name json found => ih (name, json) (Json.mem_of_lastNamed found)
      constructor
      · intro node decoded
        cases decodedFrom_of_nodeOfJson decoded with
        | condition read =>
            obtain ⟨_, _, value⟩ := conditionOfMembers_inv read
            refine Node.reencodes_condition fun v given => ?_
            obtain ⟨json, found, rfl⟩ := Option.map_eq_some_iff.mp (value.trans given)
            exact .ofJson (readable _ (Json.mem_of_lastNamed found))
        | object _ first second =>
            exact Node.reencodes_group (reencodes_of_bucketOr (named "and") first)
              (reencodes_of_bucketOr (named "or") second)
      · intro bucket decoded
        cases decoded

/-- A node that was decoded from a readable value is decoded again from what it is encoded as. -/
theorem Node.reencodes_of_nodeOfJson {depth : Nat} {json : Json} {node : Node}
    (readable : Readable depth json) (decoded : nodeOfJson json = .ok node) :
    node.Reencodes depth :=
  (decodesToReencoding readable).node decoded

end RowFilter.Filter
