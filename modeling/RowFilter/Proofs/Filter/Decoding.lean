import RowFilter.Filter.Decoding
import RowFilter.Proofs.Filter.Folding
import RowFilter.Proofs.Json.Members

/-!
# What decoded nodes say of their values

A node that was read from a value is inverted into what stands in the value: a condition into the
last member of each of its names, a group into the values of its buckets.
-/

namespace RowFilter.Filter

open Json (Fault lastNamed)

/-! ### Conditions -/

/-- Whether the parts of a condition are those that members give: the last of each name. -/
structure ConditionParts.ReadFrom (parts : ConditionParts) (members : List (String × Json)) :
    Prop where
  /-- The field is a text. -/
  field : lastNamed "field" members = parts.field.map Json.string
  /-- The operator was read. -/
  operator : (lastNamed "operator" members).map operatorOfJson = parts.operator.map .ok
  /-- The value was read. -/
  value : (lastNamed "value" members).map Value.ofJson = parts.value

theorem stringOfJson_eq_ok_iff {value : Json} {text : String} :
    stringOfJson value = .ok text ↔ value = .string text := by
  cases value <;> simp [stringOfJson]

/-- One more member gives one more part, or another one in place of it. -/
theorem ConditionParts.ReadFrom.add {parts more : ConditionParts} {members : List (String × Json)}
    (given : parts.ReadFrom members) {name : String} {value : Json}
    (added : parts.add name value = .ok more) : more.ReadFrom (members ++ [(name, value)]) := by
  have last := fun other : String => Json.lastNamed_append_singleton other members name value
  unfold ConditionParts.add at added
  split at added
  · rename_i same
    obtain ⟨text, spelled, rfl⟩ := (map_eq_ok_iff _ _ _).mp added
    obtain rfl := stringOfJson_eq_ok_iff.mp spelled
    subst same
    exact ⟨last _, by rw [last]; exact given.operator, by rw [last]; exact given.value⟩
  · split at added
    · rename_i same
      obtain ⟨operator, read, rfl⟩ := (map_eq_ok_iff _ _ _).mp added
      subst same
      refine ⟨by rw [last]; exact given.field, ?_, by rw [last]; exact given.value⟩
      rw [last, if_pos rfl, Option.map_some, read]
      rfl
    · split at added
      · rename_i same
        obtain rfl := Except.ok.inj added
        subst same
        exact ⟨by rw [last]; exact given.field, by rw [last]; exact given.operator,
          by rw [last, if_pos rfl]; rfl⟩
      · cases added

/-- The parts that were added member by member are those that the members give. -/
theorem ConditionParts.readFrom_of_foldlM {members : List (String × Json)} {parts : ConditionParts}
    (added : members.foldlM (fun parts member => ConditionParts.add parts member.1 member.2) {} =
      .ok parts) : parts.ReadFrom members := by
  induction members using List.reverseRecOn generalizing parts with
  | nil =>
      obtain rfl := Except.ok.inj added
      exact ⟨rfl, rfl, rfl⟩
  | append_singleton members member ih =>
      rw [List.foldlM_append, bind_eq_ok_iff] at added
      obtain ⟨before, given, added⟩ := added
      rw [List.foldlM_cons, bind_eq_ok_iff] at added
      obtain ⟨after, added, same⟩ := added
      obtain rfl := Except.ok.inj same
      exact (ih given).add added

/-- A condition has the last text, operator and value that stand under its names. -/
theorem conditionOfMembers_inv {members : List (String × Json)} {condition : Condition}
    (read : conditionOfMembers members = .ok condition) :
    lastNamed "field" members = some (.string condition.field) ∧
      (lastNamed "operator" members).map operatorOfJson = some (.ok condition.operator) ∧
        (lastNamed "value" members).map Value.ofJson = condition.value := by
  obtain ⟨parts, added, finished⟩ := (bind_eq_ok_iff _ _ _).mp read
  have given := ConditionParts.readFrom_of_foldlM added
  unfold ConditionParts.finish at finished
  split at finished
  · cases finished
  · cases finished
  · rename_i field operator hfield hoperator
    obtain rfl := Except.ok.inj finished
    exact ⟨by rw [given.field, hfield]; rfl, by rw [given.operator, hoperator]; rfl, given.value⟩

/-! ### Groups -/

/-- The bucket of a value, if there is one, or else the one that was there before. -/
def bucketOr (before : Option (List Node)) : Option Json → Except Fault (Option (List Node))
  | none => .ok before
  | some value => bucketOfJson value

/-- A bucket that is named once more is the one that comes later. -/
theorem bucketOr_cons_self {name : String} {value : Json} {rest : List (String × Json)}
    {before bucket final : Option (List Node)} (decoded : bucketOfJson value = .ok bucket)
    (later : bucketOr bucket (lastNamed name rest) = .ok final) :
    bucketOr before (lastNamed name ((name, value) :: rest)) = .ok final := by
  rw [Json.lastNamed_cons, if_pos rfl]
  cases last : lastNamed name rest with
  | none =>
      rw [last] at later
      exact decoded.trans later
  | some found =>
      rw [last] at later
      exact later

theorem bucketOr_cons_ne {name key : String} (different : key ≠ name) (value : Json)
    (rest : List (String × Json)) (before : Option (List Node)) :
    bucketOr before (lastNamed name ((key, value) :: rest)) =
      bucketOr before (lastNamed name rest) := by
  rw [Json.lastNamed_cons, if_neg different, Option.or_none]

/-- A group has the buckets of the last values that stand under its names, and no other names. -/
theorem groupOfMembers_inv {members : List (String × Json)} {all any : Option (List Node)}
    {node : Node} (read : groupOfMembers all any members = .ok node) :
    (∀ member ∈ members, member.1 ∈ groupFields) ∧ ∃ finalAll finalAny,
      node = .group finalAll finalAny ∧
        bucketOr all (lastNamed "and" members) = .ok finalAll ∧
          bucketOr any (lastNamed "or" members) = .ok finalAny := by
  induction members generalizing all any with
  | nil =>
      obtain rfl := Except.ok.inj read
      exact ⟨List.forall_mem_nil _, all, any, rfl, rfl, rfl⟩
  | cons member rest ih =>
      obtain ⟨name, value⟩ := member
      rw [groupOfMembers] at read
      split at read
      · rename_i same
        subst same
        obtain ⟨bucket, decoded, read⟩ := (bind_eq_ok_iff _ _ _).mp read
        obtain ⟨known, finalAll, finalAny, rfl, hall, hany⟩ := ih read
        refine ⟨List.forall_mem_cons.mpr ⟨.head _, known⟩, finalAll, finalAny, rfl,
          bucketOr_cons_self decoded hall, ?_⟩
        rw [bucketOr_cons_ne (by decide)]
        exact hany
      · split at read
        · rename_i same
          subst same
          obtain ⟨bucket, decoded, read⟩ := (bind_eq_ok_iff _ _ _).mp read
          obtain ⟨known, finalAll, finalAny, rfl, hall, hany⟩ := ih read
          refine ⟨List.forall_mem_cons.mpr ⟨.tail _ (.head _), known⟩, finalAll, finalAny, rfl, ?_,
            bucketOr_cons_self decoded hany⟩
          rw [bucketOr_cons_ne (by decide)]
          exact hall
        · cases read

/-- A group by position has the buckets of the first two items. -/
theorem groupOfItems_inv {items : List Json} {node : Node} (read : groupOfItems items = .ok node) :
    ∃ all any, node = .group all any ∧ bucketOr none items[0]? = .ok all ∧
      bucketOr none items[1]? = .ok any := by
  unfold groupOfItems at read
  split at read
  · obtain rfl := Except.ok.inj read
    exact ⟨none, none, rfl, rfl, rfl⟩
  · obtain ⟨bucket, decoded, same⟩ := (bind_eq_ok_iff _ _ _).mp read
    obtain rfl := Except.ok.inj same
    exact ⟨bucket, none, rfl, decoded, rfl⟩
  · obtain ⟨all, first, read⟩ := (bind_eq_ok_iff _ _ _).mp read
    obtain ⟨any, second, same⟩ := (bind_eq_ok_iff _ _ _).mp read
    split at same
    · obtain rfl := Except.ok.inj same
      exact ⟨all, any, rfl, first, second⟩
    · cases same

theorem nodesOfItems_eq_ok_iff {items : List Json} {nodes : List Node} :
    nodesOfItems items = .ok nodes ↔
      List.Forall₂ (fun item node => nodeOfJson item = .ok node) items nodes := by
  have collected : nodesOfItems items = collect (items.map nodeOfJson) := by
    induction items with
    | nil => rw [nodesOfItems]; rfl
    | cons item rest ih => rw [nodesOfItems, ih, List.map_cons, collect]
  rw [collected, collect_map_eq_ok_iff]

/-- A bucket is absent for null, and else has the nodes of a list. -/
theorem bucketOfJson_eq_ok_iff {value : Json} {bucket : Option (List Node)} :
    bucketOfJson value = .ok bucket ↔ (value = .null ∧ bucket = none) ∨
      ∃ items nodes, value = .array items ∧ bucket = some nodes ∧
        List.Forall₂ (fun item node => nodeOfJson item = .ok node) items nodes := by
  cases value with
  | null => simp [bucketOfJson, eq_comm]
  | array items =>
      simp only [bucketOfJson, bind_eq_ok_iff, nodesOfItems_eq_ok_iff, pure, Except.pure,
        Except.ok.injEq, reduceCtorEq, false_and, false_or, Json.array.injEq]
      constructor
      · rintro ⟨nodes, read, rfl⟩
        exact ⟨items, nodes, rfl, rfl, read⟩
      · rintro ⟨_, nodes, rfl, rfl, read⟩
        exact ⟨nodes, read, rfl⟩
  | _ => simp [bucketOfJson]

/-- What a node was decoded from. -/
inductive DecodedFrom : Json → Node → Prop
  | condition {members : List (String × Json)} {condition : Condition}
      (read : conditionOfMembers members = .ok condition) :
      DecodedFrom (.object members) (.condition condition)
  | object {members : List (String × Json)} {all any : Option (List Node)}
      (known : ∀ member ∈ members, member.1 ∈ groupFields)
      (first : bucketOr none (lastNamed "and" members) = .ok all)
      (second : bucketOr none (lastNamed "or" members) = .ok any) :
      DecodedFrom (.object members) (.group all any)
  | array {items : List Json} {all any : Option (List Node)}
      (first : bucketOr none items[0]? = .ok all) (second : bucketOr none items[1]? = .ok any) :
      DecodedFrom (.array items) (.group all any)

theorem decodedFrom_of_nodeOfJson {value : Json} {node : Node}
    (read : nodeOfJson value = .ok node) : DecodedFrom value node := by
  cases value with
  | object members =>
      rw [nodeOfJson] at read
      split at read
      · obtain ⟨condition, decoded, rfl⟩ := (map_eq_ok_iff _ _ _).mp read
        exact .condition decoded
      · obtain ⟨known, all, any, rfl, first, second⟩ := groupOfMembers_inv read
        exact .object known first second
  | array items =>
      rw [nodeOfJson] at read
      obtain ⟨all, any, rfl, first, second⟩ := groupOfItems_inv read
      exact .array first second
  | _ => cases read

end RowFilter.Filter
