import RowFilter.Proofs.Filter.Decoding
import RowFilter.Proofs.Json.AsWritten

/-!
# Filters and the values they are written as

A filter that was read mirrors the value as it is written: each item of the list that is written
for a bucket is one node of the bucket, at the same place. But of several lists that are written for
one bucket only the last counts. If no group names a bucket twice, then every condition that is
written is a condition of the filter.
-/

namespace RowFilter

theorem Number.total_append (first second : List Nat) :
    Number.total (first ++ second) = Number.total first + Number.total second := by
  induction first with
  | nil => rw [List.nil_append, Number.total, Nat.zero_add]
  | cons n rest ih => rw [List.cons_append, Number.total, ih, Number.total, Nat.add_assoc]

namespace Filter

open Json (lastNamed normalised valuesNamed)

/-! ### What is written -/

/-- Whether a value stands for a condition: it is an object with a field. -/
def standsForCondition : Json → Bool
  | .object members => (lastNamed "field" members).isSome
  | _ => false

/-- What is written at the places of buckets in a group: in an object wherever a bucket is named, in
a list at the first two places. -/
def bucketsWritten : Json → List Json
  | .object members => valuesNamed "and" members ++ valuesNamed "or" members
  | .array items => items.take 2
  | _ => []

/-- The items of a list; no other value has any. -/
def itemsWritten : Json → List Json
  | .array items => items
  | _ => []

/-- What is written at the places of nodes in a group. -/
def nodesWritten (group : Json) : List Json := (bucketsWritten group).flatMap itemsWritten

theorem sizeOf_lt_of_mem_bucketsWritten {group bucket : Json}
    (written : bucket ∈ bucketsWritten group) : sizeOf bucket < sizeOf group := by
  cases group with
  | object members =>
      obtain ⟨name, member⟩ : ∃ name, (name, bucket) ∈ members := by
        rcases List.mem_append.mp written with named | named
        · exact ⟨_, Json.mem_valuesNamed named⟩
        · exact ⟨_, Json.mem_valuesNamed named⟩
      have smaller := List.sizeOf_lt_of_mem member
      simp only [Prod.mk.sizeOf_spec] at smaller
      simp only [Json.object.sizeOf_spec]
      omega
  | array items =>
      have smaller := List.sizeOf_lt_of_mem (List.mem_of_mem_take written)
      simp only [Json.array.sizeOf_spec]
      omega
  | _ => cases written

theorem sizeOf_lt_of_mem_nodesWritten {group node : Json} (written : node ∈ nodesWritten group) :
    sizeOf node < sizeOf group := by
  obtain ⟨bucket, hbucket, hnode⟩ := List.mem_flatMap.mp written
  have outer := sizeOf_lt_of_mem_bucketsWritten hbucket
  cases bucket with
  | array items =>
      have inner := List.sizeOf_lt_of_mem (show node ∈ items from hnode)
      simp only [Json.array.sizeOf_spec] at outer
      omega
  | _ => cases hnode

/-- The number of conditions that are written. -/
def conditionsWritten (whole : Json) : Nat :=
  if standsForCondition whole then 1
  else Number.total ((nodesWritten whole).attach.map fun node => conditionsWritten node.1)
termination_by sizeOf whole
decreasing_by exact sizeOf_lt_of_mem_nodesWritten node.2

theorem conditionsWritten_of_group {group : Json} (other : standsForCondition group = false) :
    conditionsWritten group = Number.total ((nodesWritten group).map conditionsWritten) := by
  rw [conditionsWritten, other, if_neg Bool.false_ne_true, List.map_attach_eq_pmap,
    List.pmap_eq_map]

/-- Whether a value is written at the place of a node in a value, however deep. -/
inductive WrittenIn : Json → Json → Prop
  | here (whole : Json) : WrittenIn whole whole
  | under {inner node group : Json} (other : standsForCondition group = false)
      (written : node ∈ nodesWritten group) (inNode : WrittenIn inner node) : WrittenIn inner group

/-- Whether a value does not name a bucket twice. -/
def NamesBucketsOnce : Json → Prop
  | .object members => ∀ name ∈ groupFields, (valuesNamed name members).length ≤ 1
  | _ => True

/-! ### What is read -/

/-- Whether a bucket mirrors what is written for it: an absent bucket nothing or null, another one a
list with an item for each node, in their order. -/
inductive BucketMirrors (mirrors : Node → Json → Prop) : Option (List Node) → Option Json → Prop
  | absent : BucketMirrors mirrors none none
  | null : BucketMirrors mirrors none (some .null)
  | list {nodes : List Node} {items : List Json} (each : List.Forall₂ mirrors nodes items) :
      BucketMirrors mirrors (some nodes) (some (.array items))

/-- Whether a node mirrors what is written for it. Of several members of one name the last
counts. -/
inductive Mirrors : Node → Json → Prop
  | condition {condition : Condition} {members : List (String × Json)}
      (field : lastNamed "field" members = some (.string condition.field))
      (operator : (lastNamed "operator" members).map
        (fun whole => operatorOfJson whole.normalised) = some (.ok condition.operator))
      (value : (lastNamed "value" members).map (fun whole => Value.ofJson whole.normalised) =
        condition.value) :
      Mirrors (.condition condition) (.object members)
  | object {all any : Option (List Node)} {members : List (String × Json)}
      (noField : lastNamed "field" members = none)
      (first : BucketMirrors Mirrors all (lastNamed "and" members))
      (second : BucketMirrors Mirrors any (lastNamed "or" members)) :
      Mirrors (.group all any) (.object members)
  | list {all any : Option (List Node)} {items : List Json}
      (first : BucketMirrors Mirrors all items[0]?) (second : BucketMirrors Mirrors any items[1]?) :
      Mirrors (.group all any) (.array items)

private theorem eq_string_of_normalised {whole : Json} {text : String}
    (same : whole.normalised = .string text) : whole = .string text := by
  cases whole with
  | string other => exact same
  | _ => cases same

/-- Whether what is decoded of a written value mirrors it, as a node and as a bucket. -/
private structure DecodesFaithfully (whole : Json) : Prop where
  node : ∀ {node : Node}, nodeOfJson whole.normalised = .ok node → Mirrors node whole
  bucket : ∀ {bucket : Option (List Node)}, bucketOfJson whole.normalised = .ok bucket →
    BucketMirrors Mirrors bucket (some whole)

private theorem bucketMirrors_of_bucketOr {written : Option Json} {bucket : Option (List Node)}
    (faithful : ∀ whole, written = some whole → DecodesFaithfully whole)
    (read : bucketOr none (written.map normalised) = .ok bucket) :
    BucketMirrors Mirrors bucket written := by
  cases written with
  | none =>
      obtain rfl := Except.ok.inj read
      exact .absent
  | some whole => exact (faithful whole rfl).bucket read

private theorem decodesFaithfully (whole : Json) : DecodesFaithfully whole := by
  induction whole using Json.induction with
  | null =>
      constructor
      · intro node read
        cases read
      · intro bucket read
        obtain rfl := Except.ok.inj read
        exact .null
  | boolean b => constructor <;> (intro _ read; cases read)
  | number n => constructor <;> (intro _ read; cases read)
  | string text => constructor <;> (intro _ read; cases read)
  | array items ih =>
      have place : ∀ (place : Nat) (whole : Json), items[place]? = some whole →
          DecodesFaithfully whole := fun place whole found => ih whole (List.mem_of_getElem? found)
      constructor
      · intro node read
        rw [normalised, Json.normalisedItems_eq_map] at read
        cases decodedFrom_of_nodeOfJson read with
        | array first second =>
            rw [List.getElem?_map] at first second
            exact .list (bucketMirrors_of_bucketOr (place 0) first)
              (bucketMirrors_of_bucketOr (place 1) second)
      · intro bucket read
        rw [normalised, Json.normalisedItems_eq_map] at read
        rcases bucketOfJson_eq_ok_iff.mp read with ⟨null, _⟩ | ⟨_, nodes, same, rfl, each⟩
        · cases null
        · obtain rfl := Json.array.inj same
          rw [List.forall₂_map_left_iff] at each
          have faithful := (List.forall₂_and_left _ _).mpr ⟨ih, each⟩
          exact .list (faithful.imp fun _ _ both => both.1.node both.2).flip
  | object members ih =>
      have named : ∀ (name : String) (whole : Json), lastNamed name members = some whole →
          DecodesFaithfully whole := fun name whole found =>
        ih (name, whole) (Json.mem_of_lastNamed found)
      constructor
      · intro node read
        rw [normalised, Json.normalisedMembers_eq_map] at read
        have last : ∀ name, lastNamed name (Json.membersOf
            (members.map fun member => (member.1, member.2.normalised))) =
              (lastNamed name members).map normalised := fun name => by
          rw [Json.lastNamed_membersOf, Json.lastNamed_map]
        cases decodedFrom_of_nodeOfJson read with
        | condition decoded =>
            obtain ⟨field, operator, value⟩ := conditionOfMembers_inv decoded
            rw [last] at field operator value
            rw [Option.map_map] at operator value
            obtain ⟨whole, found, text⟩ := Option.map_eq_some_iff.mp field
            exact .condition (found.trans (congrArg some (eq_string_of_normalised text)))
              operator value
        | object known first second =>
            rw [last] at first second
            have noField : (lastNamed "field" members).map normalised = none := by
              rw [← last, Json.lastNamed_eq_none_iff]
              intro member hmember same
              exact absurd (same ▸ known member hmember) (by decide)
            exact .object (Option.map_eq_none_iff.mp noField)
              (bucketMirrors_of_bucketOr (named "and") first)
              (bucketMirrors_of_bucketOr (named "or") second)
      · intro bucket read
        cases read

/-- A bucket that was decoded mirrors what it was written as. -/
theorem bucketMirrors_of_bucketOfJson {whole : Json} {bucket : Option (List Node)}
    (read : bucketOfJson whole.normalised = .ok bucket) :
    BucketMirrors Mirrors bucket (some whole) :=
  (decodesFaithfully whole).bucket read

/-! ### Counting conditions -/

/-- The number of conditions of a node. -/
def Node.conditionCount (node : Node) : Nat :=
  node.fold (fun _ => 1) fun all any =>
    Number.total (bucketNodes all) + Number.total (bucketNodes any)

theorem Node.conditionCount_group (all any : Option (List Node)) :
    (Node.group all any).conditionCount =
      Number.total ((bucketNodes all).map conditionCount) +
        Number.total ((bucketNodes any).map conditionCount) := by
  rw [conditionCount, Node.fold_group, bucketNodes_map, bucketNodes_map]
  rfl

/-- Whether all groups that are written in a value name each bucket once. -/
def AllNameBucketsOnce (whole : Json) : Prop :=
  ∀ inner, WrittenIn inner whole → NamesBucketsOnce inner

theorem AllNameBucketsOnce.node {group node : Json} (once : AllNameBucketsOnce group)
    (other : standsForCondition group = false) (written : node ∈ nodesWritten group) :
    AllNameBucketsOnce node :=
  fun inner inNode => once inner (.under other written inNode)

/-- What is written for a bucket that is named once is what counts for it. -/
theorem valuesNamed_of_once {name : String} {members : List (String × Json)}
    (once : (valuesNamed name members).length ≤ 1) :
    valuesNamed name members = (lastNamed name members).toList := by
  rw [lastNamed]
  generalize valuesNamed name members = values at once
  rcases values with _ | ⟨value, _ | ⟨second, rest⟩⟩
  · rfl
  · rfl
  · simp at once

/-- Whether the conditions written in a value are counted right, as a node and as a bucket. -/
private structure CountsRight (whole : Json) : Prop where
  node : ∀ {node : Node}, Mirrors node whole → AllNameBucketsOnce whole →
    node.conditionCount = conditionsWritten whole
  bucket : ∀ {bucket : Option (List Node)}, BucketMirrors Mirrors bucket (some whole) →
    (∀ item ∈ itemsWritten whole, AllNameBucketsOnce item) →
      Number.total ((bucketNodes bucket).map Node.conditionCount) =
        Number.total ((itemsWritten whole).map conditionsWritten)

/-- The nodes of a bucket have the conditions written for it. -/
private theorem count_of_bucketMirrors {written : Option Json} {bucket : Option (List Node)}
    (right : ∀ whole, written = some whole → CountsRight whole)
    (mirrors : BucketMirrors Mirrors bucket written)
    (once : ∀ item ∈ written.toList.flatMap itemsWritten, AllNameBucketsOnce item) :
    Number.total ((bucketNodes bucket).map Node.conditionCount) =
      Number.total ((written.toList.flatMap itemsWritten).map conditionsWritten) := by
  cases written with
  | none =>
      cases mirrors
      rfl
  | some whole =>
      rw [Option.toList_some, List.flatMap_singleton] at once ⊢
      exact (right whole rfl).bucket mirrors once

/-- A group has the conditions written for its two buckets. -/
private theorem count_of_group {group : Json} {first second : Option Json}
    {all any : Option (List Node)} (other : standsForCondition group = false)
    (buckets : bucketsWritten group = first.toList ++ second.toList)
    (right : ∀ whole, first = some whole ∨ second = some whole → CountsRight whole)
    (mirrorsAll : BucketMirrors Mirrors all first) (mirrorsAny : BucketMirrors Mirrors any second)
    (once : AllNameBucketsOnce group) :
    (Node.group all any).conditionCount = conditionsWritten group := by
  have nodes : nodesWritten group =
      first.toList.flatMap itemsWritten ++ second.toList.flatMap itemsWritten := by
    rw [nodesWritten, buckets, List.flatMap_append]
  have each : ∀ node ∈ nodesWritten group, AllNameBucketsOnce node :=
    fun node written => once.node other written
  rw [nodes, List.forall_mem_append] at each
  rw [conditionsWritten_of_group other, nodes, List.map_append, Number.total_append,
    Node.conditionCount_group,
    count_of_bucketMirrors (fun whole found => right whole (.inl found)) mirrorsAll each.1,
    count_of_bucketMirrors (fun whole found => right whole (.inr found)) mirrorsAny each.2]

private theorem countsRight (whole : Json) : CountsRight whole := by
  induction whole using Json.induction with
  | null => constructor <;> (intro _ mirrors _; cases mirrors; try rfl)
  | boolean b => constructor <;> (intro _ mirrors; cases mirrors)
  | number n => constructor <;> (intro _ mirrors; cases mirrors)
  | string text => constructor <;> (intro _ mirrors; cases mirrors)
  | array items ih =>
      constructor
      · intro node mirrors once
        cases mirrors with
        | list first second =>
            refine count_of_group rfl ?_ ?_ first second once
            · match items with
              | [] => rfl
              | [_] => rfl
              | _ :: _ :: _ => rfl
            · rintro whole (found | found)
              · exact ih whole (List.mem_of_getElem? found)
              · exact ih whole (List.mem_of_getElem? found)
      · intro bucket mirrors once
        cases mirrors with
        | list each =>
            have right := (List.forall₂_and_left _ _).mpr
              ⟨fun item hitem => And.intro (ih item hitem) (once item hitem), each.flip⟩
            have counts := right.imp fun _ _ both => both.1.1.node both.2 both.1.2
            exact congrArg Number.total (map_eq_map_of_forall₂ counts fun _ _ _ same => same)
  | object members ih =>
      constructor
      · intro node mirrors once
        cases mirrors with
        | condition field operator value =>
            have stands : standsForCondition (.object members) = true := by
              rw [standsForCondition, field, Option.isSome_some]
            rw [conditionsWritten, if_pos stands]
            exact Node.fold_condition _ _ _
        | object noField first second =>
            have here := once _ (.here _)
            refine count_of_group ?_ ?_ ?_ first second once
            · rw [standsForCondition, noField, Option.isSome_none]
            · rw [bucketsWritten, valuesNamed_of_once (here "and" (.head _)),
                valuesNamed_of_once (here "or" (.tail _ (.head _)))]
            · have named : ∀ (name : String) (whole : Json), lastNamed name members = some whole →
                  CountsRight whole := fun name whole found =>
                ih (name, whole) (Json.mem_of_lastNamed found)
              rintro whole (found | found)
              · exact named _ whole found
              · exact named _ whole found
      · intro bucket mirrors once
        cases mirrors

/-- If no group that is written names a bucket twice, then the conditions of a node are those that
are written. -/
theorem conditionCount_of_mirrors {node : Node} {whole : Json} (mirrors : Mirrors node whole)
    (once : AllNameBucketsOnce whole) : node.conditionCount = conditionsWritten whole :=
  (countsRight whole).node mirrors once

end Filter

end RowFilter
