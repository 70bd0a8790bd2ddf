import RowFilter.Proofs.Filter.Grammar
import RowFilter.Proofs.Filter.WrittenText

/-!
# Whole filters and the grammar

The root of a filter is read member by member, its nodes are decoded from values. The filter that is
read is the node that the whole value would be decoded as, so the root is under the rules of the
nodes: what is malformed anywhere in a filter makes the whole filter fail.
-/

namespace RowFilter.Filter

open Json (ItemsWritten Source WrittenAt lastNamed normalised)

variable {depth : Nat} {text rest last : Source}

/-! ### Buckets by name -/

/-- Whether the buckets read so far are decoded from the members written so far. -/
structure Buckets.DecodeMembers (buckets : Buckets) (members : List (String × Json)) : Prop where
  /-- The members are buckets. -/
  known : ∀ member ∈ members, member.1 ∈ groupFields ∧
    ∃ bucket, bucketOfJson member.2.normalised = .ok bucket
  /-- The bucket of nodes that must all hold. -/
  all : bucketOr none ((lastNamed "and" members).map normalised) = .ok buckets.all.join
  /-- The bucket of nodes of which one must hold. -/
  any : bucketOr none ((lastNamed "or" members).map normalised) = .ok buckets.any.join

namespace Buckets.DecodeMembers

variable {buckets more : Buckets} {members : List (String × Json)}

theorem nil : Buckets.DecodeMembers {} [] := ⟨List.forall_mem_nil _, rfl, rfl⟩

/-- A member that was read as a bucket is decoded from a member that is written. -/
theorem exists_written {known : List String} {name : String}
    (decode : buckets.DecodeMembers members)
    (read : readBucketMember known depth name buckets text = .ok (more, rest)) :
    ∃ others, (Json.FromSomeBound fun bound =>
      Json.writtenMember (Json.written bound depth) name members text = .ok (others, rest)) ∧
        more.DecodeMembers others := by
  obtain ⟨start, bucket, mark, once, read⟩ := readBucketMember_eq_ok_iff.mp read
  obtain ⟨whole, written, decoded⟩ := exists_decoded_of_readBucket once
  refine ⟨members ++ [(name, whole)], WrittenAt.member mark written, ?_⟩
  have last := fun known => Json.lastNamed_append_singleton known members name whole
  rcases read with ⟨rfl, _, rfl⟩ | ⟨rfl, _, rfl⟩
  · constructor
    · exact List.forall_mem_append.mpr ⟨decode.known, List.forall_mem_singleton.mpr
        ⟨.head _, bucket, decoded⟩⟩
    · rw [last, if_pos rfl]
      exact decoded
    · rw [last, if_neg (by decide)]
      exact decode.any
  · constructor
    · exact List.forall_mem_append.mpr ⟨decode.known, List.forall_mem_singleton.mpr
        ⟨.tail _ (.head _), bucket, decoded⟩⟩
    · rw [last, if_neg (by decide)]
      exact decode.all
    · rw [last, if_pos rfl]
      exact decoded

/-- The group of the buckets is the node of the whole object. -/
theorem object (decode : buckets.DecodeMembers members) :
    nodeOfJson (Json.object members).normalised = .ok buckets.toGroup.toNode := by
  rw [normalised, Json.normalisedMembers_eq_map]
  let kept := Json.membersOf (members.map fun member => (member.1, member.2.normalised))
  have last : ∀ name, lastNamed name kept = (lastNamed name members).map normalised := by
    intro name
    rw [Json.lastNamed_membersOf, Json.lastNamed_map]
  have each : ∀ member ∈ kept, member.1 ∈ groupFields ∧
      ∃ bucket, bucketOfJson member.2 = .ok bucket := by
    intro member hmember
    obtain ⟨written, hwritten, rfl⟩ := List.mem_map.mp (Json.mem_of_mem_membersOf hmember)
    exact decode.known written hwritten
  have noField : isCondition kept = false := by
    rw [isCondition_eq, standsForCondition, Option.isSome_eq_false_iff, Option.isNone_iff_eq_none,
      Json.lastNamed_eq_none_iff]
    intro member hmember same
    exact absurd (same ▸ (each member hmember).1) (by decide)
  obtain ⟨node, read⟩ := (exists_groupOfMembers_iff none none).mpr each
  obtain ⟨_, all, any, rfl, first, second⟩ := groupOfMembers_inv read
  rw [last, decode.all] at first
  rw [last, decode.any] at second
  obtain rfl := Except.ok.inj first
  obtain rfl := Except.ok.inj second
  rw [nodeOfJson, noField, if_neg Bool.false_ne_true, read]
  rfl

end Buckets.DecodeMembers

/-! ### Buckets by position -/

/-- Buckets that were read by position are decoded from the list that is written there. -/
theorem exists_decoded_of_readBucketItems {buckets : Buckets}
    (read : readBucketItems depth text = .ok (buckets, rest))
    (closed : Json.nextItem false rest = .ok (.close last)) :
    ∃ wholes, ItemsWritten depth true text wholes last ∧
      nodeOfJson (Json.array wholes).normalised = .ok buckets.toGroup.toNode := by
  obtain ⟨all, any⟩ := buckets
  obtain ⟨middle, first, second⟩ := readBucketItems_eq_ok_iff.mp read
  rcases ItemsWritten.of_itemOrEnd exists_decoded_of_readBucket second (.close closed) with
    ⟨rfl, _, written⟩ | ⟨any, wholeAny, rfl, decodedAny, written⟩
  · rcases ItemsWritten.of_itemOrEnd exists_decoded_of_readBucket first written with
      ⟨rfl, _, written⟩ | ⟨all, wholeAll, rfl, decodedAll, written⟩
    · exact ⟨[], written, rfl⟩
    · refine ⟨[wholeAll], written, ?_⟩
      rw [normalised, Json.normalisedItems_eq_map, List.map_singleton, nodeOfJson, groupOfItems,
        decodedAll]
      rfl
  · rcases ItemsWritten.of_itemOrEnd exists_decoded_of_readBucket first written with
      ⟨_, none, _⟩ | ⟨all, wholeAll, rfl, decodedAll, written⟩
    · cases none
    · refine ⟨[wholeAll, wholeAny], written, ?_⟩
      rw [normalised, Json.normalisedItems_eq_map, List.map_cons, List.map_singleton, nodeOfJson,
        groupOfItems, decodedAll, ok_bind, decodedAny]
      rfl

/-! ### Whole filters -/

/-- The root of a filter that was read is the node that the whole value is decoded as. -/
theorem exists_decoded_of_readGroup {group : Group}
    (read : readGroup depth text = .ok (group, rest)) :
    ∃ whole, WrittenAt depth text whole rest ∧
      nodeOfJson whole.normalised = .ok group.toNode := by
  rcases Json.expectRecord_eq_ok_iff.mp read with ⟨less, inner, last, rfl,
    ⟨bracket, list, closed⟩ | ⟨buckets, brace, object, same, closed⟩⟩
  · obtain ⟨⟨buckets, after⟩, items, same⟩ := (map_eq_ok_iff _ _ _).mp list
    obtain ⟨rfl, rfl⟩ := Prod.mk.inj same
    obtain ⟨last, next, closed⟩ := Json.nextItem_of_closeList closed
    obtain ⟨wholes, written, decoded⟩ := exists_decoded_of_readBucketItems items next
    exact ⟨.array wholes, .array bracket written closed, decoded⟩
  · obtain rfl := Except.ok.inj same
    obtain ⟨members, written, decode⟩ :=
      Json.objectMembers_related object Buckets.DecodeMembers.nil fun _ _ _ _ _ _ =>
        Buckets.DecodeMembers.exists_written
    exact ⟨.object members, .object brace ⟨_, written⟩ closed, decode.object⟩

/-- The decoder accepts exactly the values of the grammar of nodes. It makes a condition of those
with a field and a group of all others. A value outside the grammar at the place of a node, however
deep, makes the decoder refuse the whole value, and the reader refuse every text with that value. -/
theorem accepted_iff_isNode (value : Json) :
    ((∃ node, nodeOfJson value = .ok node) ↔ IsNode IsOperator value) ∧
    (∀ node, nodeOfJson value = .ok node →
      ((∃ condition, node = .condition condition) ↔ standsForCondition value = true) ∧
        ((∃ all any, node = .group all any) ↔ standsForCondition value = false)) ∧
    ∀ inner, WrittenIn inner value → ¬ IsNode IsOperator inner →
      (∃ fault, nodeOfJson value = .error fault) ∧
        ∀ text whole, IsWritten text whole → whole.normalised = value →
          ∃ error, Json.document readGroup text = .error error := by
  refine ⟨exists_nodeOfJson_iff, fun node read => ?_, fun inner within malformed => ?_⟩
  · rcases isCondition_of_nodeOfJson read with
      ⟨field, condition, rfl⟩ | ⟨noField, all, any, rfl⟩
    · simp [field]
    · simp [noField]
  · have refused : ¬ ∃ node, nodeOfJson value = .ok node :=
      fun accepted => malformed (.of_writtenIn within (exists_nodeOfJson_iff.mp accepted))
    constructor
    · cases read : nodeOfJson value with
      | error fault => exact ⟨fault, rfl⟩
      | ok node => exact absurd ⟨node, read⟩ refused
    · rintro text whole written rfl
      cases accepted : Json.document readGroup text with
      | error error => exact ⟨error, rfl⟩
      | ok group =>
          obtain ⟨rest, read, blank⟩ := Json.document_eq_ok_iff.mp accepted
          obtain ⟨other, there, decoded⟩ := exists_decoded_of_readGroup read
          obtain rfl := written.unique ⟨rest, there, blank⟩
          exact absurd ⟨_, decoded⟩ refused

/-- A condition with an operator that does not exist. -/
def sampleMisspelt : Json := .object [("field", .string "age"), ("operator", .string "like")]

/-- A condition whose operator is an object. -/
def sampleTagged : Json :=
  .object [("field", .string "age"), ("operator", .object [("gt", .null)]), ("value", .ofInt 30)]

/-- A group in a group, with the two conditions. -/
def sampleDeep : Json :=
  .object [("and", .array [.object [("or", .array [sampleTagged, sampleMisspelt])]])]

/-- The text of the groups. -/
def sampleDeepText : String :=
  "\x7b\"and\":[\x7b\"or\":[" ++
    "\x7b\"field\":\"age\",\"operator\":\x7b\"gt\":null\x7d,\"value\":30\x7d," ++
    "\x7b\"field\":\"age\",\"operator\":\"like\"\x7d]\x7d]\x7d"

/-- The first condition is accepted as a condition. The second is not, two groups deep, and with it
the filter is refused, as a value and as a text. -/
theorem sample_misspelt_refused :
    (∃ node, nodeOfJson sampleTagged = .ok node ∧ ∃ condition, node = .condition condition) ∧
      (WrittenIn sampleMisspelt sampleDeep ∧ ¬ IsNode IsOperator sampleMisspelt) ∧
      (∃ fault, nodeOfJson sampleDeep = .error fault) ∧
      ∃ error, Json.document readGroup (Text.symbols sampleDeepText) = .error error := by
  have tagged : nodeOfJson sampleTagged =
      .ok (.condition ⟨"age", .gt, some (.ofJson (.ofInt 30))⟩) := rfl
  have within : WrittenIn sampleMisspelt sampleDeep :=
    .under rfl (.head _) (.under rfl (.tail _ (.head _)) (.here _))
  have malformed : ¬ IsNode IsOperator sampleMisspelt := by
    rw [← (accepted_iff_isNode sampleMisspelt).1]
    rintro ⟨node, read⟩
    cases read
  have written : Json.written 90 Json.greatestDepth (Text.symbols sampleDeepText) =
      .ok (sampleDeep, []) := rfl
  have normal : sampleDeep.normalised = sampleDeep := rfl
  obtain ⟨refused, unread⟩ :=
    (accepted_iff_isNode sampleDeep).2.2 sampleMisspelt within malformed
  refine ⟨⟨_, tagged, ?_⟩, ⟨within, malformed⟩, refused, ?_⟩
  · exact ((accepted_iff_isNode sampleTagged).2.1 _ tagged).1.mpr rfl
  · exact unread _ sampleDeep ⟨[], .of_written written, rfl⟩ normal

/-- The operator of the first condition is no text, so the grammar whose operators are texts does
not have the condition. It is accepted all the same. -/
theorem sample_tagged_accepted :
    (∃ node, nodeOfJson sampleTagged = .ok node) ∧ ¬ IsNode IsOperatorName sampleTagged := by
  constructor
  · exact ⟨.condition ⟨"age", .gt, some (.ofJson (.ofInt 30))⟩, rfl⟩
  · intro grammatical
    cases grammatical with
    | condition _ _ fits =>
        obtain ⟨operator, same⟩ := (fits _ (.tail _ (.head _))).isOperator
        cases same
    | group noField => cases noField

end RowFilter.Filter
