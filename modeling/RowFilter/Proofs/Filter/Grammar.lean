import RowFilter.Proofs.Filter.WrittenTree

/-!
# The grammar of filters

Which values are nodes of filters, said without the decoder. An object with a field is a condition
and has nothing but a field, an operator and perhaps a value; any other object is a group and has
nothing but its two buckets; a list of at most two values is a group too. A bucket is null or a list
of nodes. The decoder accepts exactly these values, so one malformed value at the place of a node,
however deep, makes the whole filter fail. An operator stands by its name, as a text or as the only
member of an object, with null for its value.
-/

namespace RowFilter.Filter

open Json (Fault lastNamed)

/-! ### The grammar -/

/-- Whether a value is the name of an operator. -/
def IsOperatorName (value : Json) : Prop := ∃ operator : Operator, value = .string operator.name

/-- Whether a value is an object with the name of an operator for its only member, and null for the
value of that member. -/
def IsOperatorObject (value : Json) : Prop :=
  ∃ operator : Operator, value = .object [(operator.name, .null)]

/-- Whether a value is one that operators are read from. -/
def IsOperator (value : Json) : Prop := IsOperatorName value ∨ IsOperatorObject value

/-- Whether a member may stand in a condition. -/
inductive FitsCondition (isOperator : Json → Prop) : String × Json → Prop
  | field (text : String) : FitsCondition isOperator ("field", .string text)
  | operator {value : Json} (known : isOperator value) :
      FitsCondition isOperator ("operator", value)
  | value (value : Json) : FitsCondition isOperator ("value", value)

/-- What stands under the name of the operator is an operator. -/
theorem FitsCondition.isOperator {isOperator : Json → Prop} {value : Json}
    (fits : FitsCondition isOperator ("operator", value)) : isOperator value := by
  generalize same : ("operator", value) = member at fits
  cases fits with
  | field text => simp at same
  | operator known =>
      obtain rfl := (Prod.mk.inj same).2
      exact known
  | value other => simp at same

mutual

/-- Whether a value is in the grammar of nodes, given which values are operators. -/
inductive IsNode (isOperator : Json → Prop) : Json → Prop
  | condition {members : List (String × Json)}
      (field : standsForCondition (.object members) = true)
      (operator : ∃ value, ("operator", value) ∈ members)
      (fits : ∀ member ∈ members, FitsCondition isOperator member) :
      IsNode isOperator (.object members)
  | group {members : List (String × Json)}
      (noField : standsForCondition (.object members) = false)
      (known : ∀ member ∈ members, member.1 ∈ groupFields)
      (buckets : ∀ member ∈ members, IsBucket isOperator member.2) :
      IsNode isOperator (.object members)
  | list {items : List Json} (short : items.length ≤ 2)
      (buckets : ∀ bucket ∈ items, IsBucket isOperator bucket) : IsNode isOperator (.array items)

/-- Whether a value is in the grammar of buckets. -/
inductive IsBucket (isOperator : Json → Prop) : Json → Prop
  | null : IsBucket isOperator .null
  | list {items : List Json} (nodes : ∀ item ∈ items, IsNode isOperator item) :
      IsBucket isOperator (.array items)

end

/-- Every value at the place of a node in a node is a node. -/
theorem IsNode.of_writtenIn {isOperator : Json → Prop} {inner value : Json}
    (within : WrittenIn inner value) (grammatical : IsNode isOperator value) :
    IsNode isOperator inner := by
  induction within with
  | here => exact grammatical
  | @under node group other written _ ih =>
      apply ih
      obtain ⟨bucket, hbucket, hnode⟩ := List.mem_flatMap.mp written
      have proper : IsBucket isOperator bucket := by
        cases grammatical with
        | condition field =>
            rw [other] at field
            cases field
        | group _ _ buckets =>
            rcases List.mem_append.mp hbucket with named | named
            · exact buckets _ (Json.mem_valuesNamed named)
            · exact buckets _ (Json.mem_valuesNamed named)
        | list _ buckets => exact buckets bucket (List.mem_of_mem_take hbucket)
      cases proper with
      | null => cases hnode
      | list nodes => exact nodes node hnode

/-! ### Conditions -/

theorem ofName?_eq_some_iff {name : String} {operator : Operator} :
    Operator.ofName? name = some operator ↔ name = operator.name := by
  constructor
  · intro found
    have same := List.find?_some (p := fun operator : Operator => operator.name == name) found
    exact (eq_of_beq same).symm
  · rintro rfl
    cases operator <;> rfl

theorem operatorOfName_eq_ok_iff {name : String} {operator : Operator} :
    operatorOfName name = .ok operator ↔ name = operator.name := by
  rw [← ofName?_eq_some_iff, operatorOfName]
  cases Operator.ofName? name <;> simp

/-- An operator is read from its name, as a text or in an object. -/
theorem operatorOfJson_eq_ok_iff {value : Json} {operator : Operator} :
    operatorOfJson value = .ok operator ↔
      value = .string operator.name ∨ value = .object [(operator.name, .null)] := by
  unfold operatorOfJson
  split
  · simp [operatorOfName_eq_ok_iff]
  · rename_i name content
    simp only [bind_eq_ok_iff, operatorOfName_eq_ok_iff, reduceCtorEq, false_or]
    cases content <;>
      simp [Json.isNull, pure, Except.pure, throw, throwThe, MonadExceptOf.throw, eq_comm]
  · rename_i members several
    simp only [reduceCtorEq, false_or, false_iff, Json.object.injEq]
    exact several _ _
  · rename_i other noText _ noObject
    simp only [reduceCtorEq, false_iff, not_or]
    exact ⟨noText _, noObject _⟩

theorem exists_operatorOfJson_iff {value : Json} :
    (∃ operator, operatorOfJson value = .ok operator) ↔ IsOperator value := by
  simp only [operatorOfJson_eq_ok_iff, exists_or]
  rfl

namespace ConditionParts

/-- A member is added if it may stand in a condition, whatever stands before it. -/
theorem exists_add_iff (parts : ConditionParts) {member : String × Json} :
    (∃ more, parts.add member.1 member.2 = .ok more) ↔ FitsCondition IsOperator member := by
  obtain ⟨name, value⟩ := member
  constructor
  · rintro ⟨more, added⟩
    unfold add at added
    dsimp only at added
    split_ifs at added with field operator last
    · obtain ⟨text, spelled, _⟩ := (map_eq_ok_iff _ _ _).mp added
      obtain rfl := stringOfJson_eq_ok_iff.mp spelled
      subst field
      exact .field text
    · obtain ⟨found, read, _⟩ := (map_eq_ok_iff _ _ _).mp added
      subst operator
      exact .operator (exists_operatorOfJson_iff.mp ⟨found, read⟩)
    · subst last
      exact .value value
  · intro fits
    cases fits with
    | field text => exact ⟨_, rfl⟩
    | operator known =>
        obtain ⟨operator, read⟩ := exists_operatorOfJson_iff.mpr known
        exact ⟨{ parts with operator := some operator }, by simp [add, read, Except.map]⟩
    | value => exact ⟨_, rfl⟩

/-- Members are added one after the other if each of them may stand in a condition. -/
theorem exists_foldlM_add_iff {members : List (String × Json)} {parts : ConditionParts} :
    (∃ more, members.foldlM (fun parts member => parts.add member.1 member.2) parts = .ok more) ↔
      ∀ member ∈ members, FitsCondition IsOperator member := by
  induction members generalizing parts with
  | nil => exact iff_of_true ⟨parts, rfl⟩ (List.forall_mem_nil _)
  | cons member rest ih =>
      simp only [List.foldlM_cons, bind_eq_ok_iff, List.forall_mem_cons]
      rw [← exists_add_iff parts]
      constructor
      · rintro ⟨final, next, added, others⟩
        exact ⟨⟨next, added⟩, ih.mp ⟨final, others⟩⟩
      · rintro ⟨⟨next, added⟩, fit⟩
        obtain ⟨final, others⟩ := ih.mpr fit
        exact ⟨final, next, added, others⟩

end ConditionParts

/-- A condition is read from members of which each may stand in one, with a field and an operator
among them. -/
theorem exists_conditionOfMembers_iff {members : List (String × Json)} :
    (∃ condition, conditionOfMembers members = .ok condition) ↔
      (lastNamed "field" members).isSome ∧ (∃ value, ("operator", value) ∈ members) ∧
        ∀ member ∈ members, FitsCondition IsOperator member := by
  constructor
  · rintro ⟨condition, read⟩
    obtain ⟨field, operator, _⟩ := conditionOfMembers_inv read
    obtain ⟨parts, added, _⟩ := (bind_eq_ok_iff _ _ _).mp read
    obtain ⟨value, last, _⟩ := Option.map_eq_some_iff.mp operator
    exact ⟨by rw [field, Option.isSome_some], ⟨value, Json.mem_of_lastNamed last⟩,
      ConditionParts.exists_foldlM_add_iff.mp ⟨parts, added⟩⟩
  · rintro ⟨hasField, ⟨value, hvalue⟩, fits⟩
    obtain ⟨parts, added⟩ := ConditionParts.exists_foldlM_add_iff.mpr fits
    have given := ConditionParts.readFrom_of_foldlM added
    have hasOperator : (lastNamed "operator" members).isSome := by
      rw [Option.isSome_iff_ne_none, ne_eq, Json.lastNamed_eq_none_iff]
      exact fun none => none _ hvalue rfl
    rw [given.field, Option.isSome_map, Option.isSome_iff_exists] at hasField
    rw [← Option.isSome_map (f := operatorOfJson), given.operator, Option.isSome_map,
      Option.isSome_iff_exists] at hasOperator
    obtain ⟨field, hfield⟩ := hasField
    obtain ⟨operator, hoperator⟩ := hasOperator
    refine ⟨⟨field, operator, parts.value⟩, (bind_eq_ok_iff _ _ _).mpr ⟨parts, added, ?_⟩⟩
    rw [ConditionParts.finish, hfield, hoperator]

/-! ### Groups -/

theorem isCondition_eq (members : List (String × Json)) :
    isCondition members = standsForCondition (.object members) := by
  rw [isCondition, standsForCondition]
  induction members with
  | nil => rfl
  | cons member rest ih =>
      obtain ⟨name, value⟩ := member
      rw [Json.lastNamed_cons, Option.isSome_or, ← ih, List.lookup_cons]
      by_cases same : name = "field"
      · simp [same]
      · have different : ("field" == name) = false := beq_eq_false_iff_ne.mpr (Ne.symm same)
        simp [same, different]

/-- Two steps succeed if the first does, where the second does not depend on what it gave. -/
private theorem exists_bind_iff {α β : Type} {first : Except Fault α} {next : α → Except Fault β}
    {P : Prop} (second : ∀ a, (∃ b, next a = .ok b) ↔ P) :
    (∃ b, first >>= next = .ok b) ↔ (∃ a, first = .ok a) ∧ P := by
  simp only [bind_eq_ok_iff]
  constructor
  · rintro ⟨b, a, one, other⟩
    exact ⟨⟨a, one⟩, (second a).mp ⟨b, other⟩⟩
  · rintro ⟨⟨a, one⟩, holds⟩
    obtain ⟨b, other⟩ := (second a).mpr holds
    exact ⟨b, a, one, other⟩

/-- A step succeeds if it does before something is made of what it gave. -/
private theorem exists_bind_pure_iff {α β : Type} {first : Except Fault α} {f : α → β} :
    (∃ b, (first >>= fun a => pure (f a)) = .ok b) ↔ ∃ a, first = .ok a :=
  (exists_bind_iff fun a => iff_of_true ⟨f a, rfl⟩ trivial).trans (iff_of_eq (and_true _))

/-- A group is read from members that are named for buckets and are buckets, whatever was read
before them. -/
theorem exists_groupOfMembers_iff {members : List (String × Json)}
    (all any : Option (List Node)) :
    (∃ node, groupOfMembers all any members = .ok node) ↔
      ∀ member ∈ members,
        member.1 ∈ groupFields ∧ ∃ bucket, bucketOfJson member.2 = .ok bucket := by
  induction members generalizing all any with
  | nil => exact iff_of_true ⟨.group all any, by rw [groupOfMembers]⟩ (List.forall_mem_nil _)
  | cons member rest ih =>
      obtain ⟨name, value⟩ := member
      rw [groupOfMembers, List.forall_mem_cons]
      split_ifs with first second
      · rw [exists_bind_iff fun bucket => ih _ _, first]
        simp [groupFields]
      · rw [exists_bind_iff fun bucket => ih _ _, second]
        simp [groupFields]
      · simp [groupFields, first, second]

/-- A group is read from a list of at most two values that are buckets. -/
theorem exists_groupOfItems_iff {items : List Json} :
    (∃ node, groupOfItems items = .ok node) ↔
      items.length ≤ 2 ∧ ∀ item ∈ items, ∃ bucket, bucketOfJson item = .ok bucket := by
  match items with
  | [] => exact iff_of_true ⟨.group none none, rfl⟩ ⟨Nat.zero_le 2, List.forall_mem_nil _⟩
  | [first] =>
      rw [groupOfItems, exists_bind_pure_iff]
      simp
  | [first, second] =>
      rw [groupOfItems]
      refine (exists_bind_iff fun all => exists_bind_pure_iff).trans ?_
      simp
  | first :: second :: third :: rest =>
      rw [groupOfItems]
      refine (exists_bind_iff (P := False) fun all => ?_).trans (by simp)
      refine (exists_bind_iff (P := False) fun any => ?_).trans (by simp)
      exact iff_of_false nofun id

theorem exists_nodesOfItems_iff {items : List Json} :
    (∃ nodes, nodesOfItems items = .ok nodes) ↔
      ∀ item ∈ items, ∃ node, nodeOfJson item = .ok node := by
  induction items with
  | nil => exact iff_of_true ⟨[], by rw [nodesOfItems]⟩ (List.forall_mem_nil _)
  | cons item rest ih =>
      rw [nodesOfItems, List.forall_mem_cons, ← ih]
      exact exists_bind_iff fun node => exists_bind_pure_iff

/-! ### Nodes -/

/-- Whether the decoder accepts a value as a node and as a bucket exactly if the grammar does. -/
private structure DecidesGrammar (value : Json) : Prop where
  node : (∃ node, nodeOfJson value = .ok node) ↔ IsNode IsOperator value
  bucket : (∃ bucket, bucketOfJson value = .ok bucket) ↔ IsBucket IsOperator value

private theorem decidesGrammar (value : Json) : DecidesGrammar value := by
  induction value using Json.induction with
  | null =>
      constructor
      · exact iff_of_false (by rintro ⟨_, ⟨⟩⟩) (by rintro ⟨⟩)
      · exact iff_of_true ⟨none, rfl⟩ .null
  | boolean b => constructor <;> exact iff_of_false (by rintro ⟨_, ⟨⟩⟩) (by rintro ⟨⟩)
  | number n => constructor <;> exact iff_of_false (by rintro ⟨_, ⟨⟩⟩) (by rintro ⟨⟩)
  | string text => constructor <;> exact iff_of_false (by rintro ⟨_, ⟨⟩⟩) (by rintro ⟨⟩)
  | array items ih =>
      constructor
      · rw [nodeOfJson, exists_groupOfItems_iff]
        constructor
        · rintro ⟨short, buckets⟩
          exact .list short fun bucket hbucket =>
            (ih bucket hbucket).bucket.mp (buckets bucket hbucket)
        · intro grammatical
          cases grammatical with
          | list short buckets =>
              exact ⟨short, fun bucket hbucket =>
                (ih bucket hbucket).bucket.mpr (buckets bucket hbucket)⟩
      · rw [bucketOfJson, exists_bind_pure_iff, exists_nodesOfItems_iff]
        constructor
        · intro nodes
          exact .list fun item hitem => (ih item hitem).node.mp (nodes item hitem)
        · intro grammatical
          cases grammatical with
          | list nodes => exact fun item hitem => (ih item hitem).node.mpr (nodes item hitem)
  | object members ih =>
      constructor
      · rw [nodeOfJson, isCondition_eq]
        cases field : standsForCondition (.object members) with
        | true =>
            rw [if_pos rfl]
            simp only [map_eq_ok_iff]
            constructor
            · rintro ⟨_, condition, read, _⟩
              obtain ⟨_, operator, fits⟩ := exists_conditionOfMembers_iff.mp ⟨condition, read⟩
              exact .condition field operator fits
            · intro grammatical
              cases grammatical with
              | condition _ operator fits =>
                  obtain ⟨condition, read⟩ :=
                    exists_conditionOfMembers_iff.mpr ⟨field, operator, fits⟩
                  exact ⟨_, condition, read, rfl⟩
              | group noField => cases field.symm.trans noField
        | false =>
            rw [if_neg Bool.false_ne_true, exists_groupOfMembers_iff]
            constructor
            · intro each
              exact .group field (fun member hmember => (each member hmember).1)
                fun member hmember => (ih member hmember).bucket.mp (each member hmember).2
            · intro grammatical
              cases grammatical with
              | condition stands => cases field.symm.trans stands
              | group _ known buckets =>
                  exact fun member hmember =>
                    ⟨known member hmember, (ih member hmember).bucket.mpr (buckets member hmember)⟩
      · exact iff_of_false (by rintro ⟨_, ⟨⟩⟩) (by rintro ⟨⟩)

/-- A node is decoded from exactly the values of the grammar. -/
theorem exists_nodeOfJson_iff {value : Json} :
    (∃ node, nodeOfJson value = .ok node) ↔ IsNode IsOperator value :=
  (decidesGrammar value).node

/-- A node that was decoded is a condition if its value has a field, and a group otherwise. -/
theorem isCondition_of_nodeOfJson {value : Json} {node : Node}
    (read : nodeOfJson value = .ok node) :
    (standsForCondition value = true ∧ ∃ condition, node = .condition condition) ∨
      standsForCondition value = false ∧ ∃ all any, node = .group all any := by
  cases value with
  | object members =>
      rw [nodeOfJson, isCondition_eq] at read
      cases field : standsForCondition (.object members) with
      | true =>
          rw [field, if_pos rfl] at read
          obtain ⟨condition, _, rfl⟩ := (map_eq_ok_iff _ _ _).mp read
          exact .inl ⟨rfl, condition, rfl⟩
      | false =>
          rw [field, if_neg Bool.false_ne_true] at read
          obtain ⟨_, all, any, rfl, _⟩ := groupOfMembers_inv read
          exact .inr ⟨rfl, all, any, rfl⟩
  | array items =>
      obtain ⟨all, any, rfl, _⟩ := groupOfItems_inv (by rwa [nodeOfJson] at read)
      exact .inr ⟨rfl, all, any, rfl⟩
  | _ => cases read

end RowFilter.Filter
