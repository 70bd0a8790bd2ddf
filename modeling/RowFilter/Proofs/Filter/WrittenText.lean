import RowFilter.Proofs.Filter.Reading
import RowFilter.Proofs.Filter.WrittenTree

/-!
# Filters read from text

The root of a filter is read from its text directly, its nodes are read as values first. Either way
what was read mirrors what is written, and the root names no bucket twice.
-/

namespace RowFilter.Filter

open Json (Attempt ItemsWritten Source WrittenAt lastNamed skipBlanks valuesNamed)

variable {depth : Nat} {text rest last : Source}

/-- A node that was read is decoded from what is written there. -/
theorem exists_decoded_of_readNode {node : Node} (read : readNode depth text = .ok (node, rest)) :
    ∃ whole, WrittenAt depth text whole rest ∧ nodeOfJson whole.normalised = .ok node := by
  obtain ⟨value, plain, decoded⟩ := readNode_eq_ok_iff.mp read
  obtain ⟨whole, written, rfl⟩ := Json.exists_writtenAt_of_value plain
  exact ⟨whole, written, decoded⟩

/-- A bucket that was read is decoded from what is written there. -/
theorem exists_decoded_of_readBucket {bucket : Option (List Node)}
    (read : readBucket depth text = .ok (bucket, rest)) :
    ∃ whole, WrittenAt depth text whole rest ∧ bucketOfJson whole.normalised = .ok bucket := by
  rcases readBucket_eq_ok_iff.mp read with
    ⟨rfl, inner, start, word⟩ | ⟨nodes, less, inner, last, rfl, rfl, bracket, items, closed⟩
  · exact ⟨.null, .null start word, rfl⟩
  · obtain ⟨wholes, written, each⟩ :=
      Json.listItems_related items fun _ _ _ => exists_decoded_of_readNode
    refine ⟨.array wholes, .array bracket ⟨_, written⟩ closed, bucketOfJson_eq_ok_iff.mpr (.inr
      ⟨wholes.map Json.normalised, nodes, ?_, rfl, List.forall₂_map_left_iff.mpr each.flip⟩)⟩
    rw [Json.normalised, Json.normalisedItems_eq_map]

/-- A bucket that was read mirrors what is written there. -/
theorem exists_written_of_readBucket {bucket : Option (List Node)}
    (read : readBucket depth text = .ok (bucket, rest)) :
    ∃ whole, WrittenAt depth text whole rest ∧ BucketMirrors Mirrors bucket (some whole) :=
  (exists_decoded_of_readBucket read).imp fun _ => And.imp_right bucketMirrors_of_bucketOfJson

/-! ### Buckets by name -/

/-- Whether a bucket mirrors the only value that stands under its name, if there is one. -/
inductive MirrorsOnly : Option (Option (List Node)) → List Json → Prop
  | unseen : MirrorsOnly none []
  | seen {bucket : Option (List Node)} {whole : Json}
      (mirrors : BucketMirrors Mirrors bucket (some whole)) : MirrorsOnly (some bucket) [whole]

namespace MirrorsOnly

variable {seen : Option (Option (List Node))} {values : List Json}

theorem eq_nil (mirrors : MirrorsOnly seen values) (unseen : seen = none) : values = [] := by
  cases mirrors with
  | unseen => rfl
  | seen one => cases unseen

theorem length_le (mirrors : MirrorsOnly seen values) : values.length ≤ 1 := by
  cases mirrors with
  | unseen => exact Nat.zero_le 1
  | seen one => exact Nat.le_refl 1

theorem join (mirrors : MirrorsOnly seen values) :
    BucketMirrors Mirrors seen.join values.getLast? := by
  cases mirrors with
  | unseen => exact .absent
  | seen one => exact one

end MirrorsOnly

/-- Whether the buckets read so far mirror the members that are written so far. -/
structure Buckets.MirrorMembers (buckets : Buckets) (members : List (String × Json)) : Prop where
  /-- The bucket of nodes that must all hold. -/
  all : MirrorsOnly buckets.all (valuesNamed "and" members)
  /-- The bucket of nodes of which one must hold. -/
  any : MirrorsOnly buckets.any (valuesNamed "or" members)
  /-- The members are none of a condition. -/
  noField : valuesNamed "field" members = []

namespace Buckets.MirrorMembers

variable {buckets more : Buckets} {members : List (String × Json)}

theorem nil : Buckets.MirrorMembers {} [] := ⟨.unseen, .unseen, rfl⟩

/-- A member that is neither a bucket nor a field may be added. -/
theorem append_other (mirrors : buckets.MirrorMembers members) {name : String} (value : Json)
    (other : name ∉ "field" :: groupFields) :
    buckets.MirrorMembers (members ++ [(name, value)]) := by
  simp only [groupFields, List.mem_cons, List.not_mem_nil, or_false, not_or] at other
  obtain ⟨field, all, any⟩ := other
  have same : ∀ known, name ≠ known →
      valuesNamed known (members ++ [(name, value)]) = valuesNamed known members := by
    intro known different
    rw [Json.valuesNamed_append, Json.valuesNamed_singleton, if_neg different, List.append_nil]
  constructor
  · rw [same _ all]
    exact mirrors.all
  · rw [same _ any]
    exact mirrors.any
  · rw [same _ field]
    exact mirrors.noField

/-- A member that was read as a bucket mirrors a member that is written, the first of its name. -/
theorem exists_written {known : List String} {name : String}
    (mirrors : buckets.MirrorMembers members)
    (read : readBucketMember known depth name buckets text = .ok (more, rest)) :
    ∃ others, (Json.FromSomeBound fun bound =>
      Json.writtenMember (Json.written bound depth) name members text = .ok (others, rest)) ∧
        more.MirrorMembers others := by
  obtain ⟨start, bucket, mark, once, read⟩ := readBucketMember_eq_ok_iff.mp read
  obtain ⟨whole, written, one⟩ := exists_written_of_readBucket once
  refine ⟨members ++ [(name, whole)], WrittenAt.member mark written, ?_⟩
  have last := fun known => Json.valuesNamed_append known members [(name, whole)]
  rcases read with ⟨rfl, unseen, rfl⟩ | ⟨rfl, unseen, rfl⟩
  · constructor
    · rw [last, mirrors.all.eq_nil unseen]
      exact .seen one
    · rw [last]
      exact (List.append_nil _).symm ▸ mirrors.any
    · rw [last, mirrors.noField]
      rfl
  · constructor
    · rw [last]
      exact (List.append_nil _).symm ▸ mirrors.all
    · rw [last, mirrors.any.eq_nil unseen]
      exact .seen one
    · rw [last, mirrors.noField]
      rfl

/-- The buckets mirror the whole object. -/
theorem object (mirrors : buckets.MirrorMembers members) :
    Mirrors buckets.toGroup.toNode (.object members) ∧ NamesBucketsOnce (.object members) := by
  constructor
  · refine .object ?_ mirrors.all.join mirrors.any.join
    rw [lastNamed, mirrors.noField, List.getLast?_nil]
  · intro name known
    rcases List.mem_cons.mp known with rfl | known
    · exact mirrors.all.length_le
    · obtain rfl := List.mem_singleton.mp known
      exact mirrors.any.length_le

end Buckets.MirrorMembers

/-! ### Buckets by position -/

/-- Buckets that were read by position mirror the list that is written there, whatever else stands
in it after them. -/
theorem exists_written_of_readBucketItems {buckets : Buckets} {items : List Json}
    (read : readBucketItems depth text = .ok (buckets, rest))
    (others : ItemsWritten depth false rest items last) :
    ∃ wholes, ItemsWritten depth true text wholes last ∧
      Mirrors buckets.toGroup.toNode (.array wholes) := by
  obtain ⟨all, any⟩ := buckets
  obtain ⟨middle, first, second⟩ := readBucketItems_eq_ok_iff.mp read
  rcases ItemsWritten.of_itemOrEnd exists_written_of_readBucket second others with
    ⟨rfl, rfl, written⟩ | ⟨any, wholeAny, rfl, mirrorsAny, written⟩
  · rcases ItemsWritten.of_itemOrEnd exists_written_of_readBucket first written with
      ⟨rfl, _, written⟩ | ⟨all, wholeAll, rfl, mirrorsAll, written⟩
    · exact ⟨[], written, .list .absent .absent⟩
    · exact ⟨[wholeAll], written, .list mirrorsAll .absent⟩
  · rcases ItemsWritten.of_itemOrEnd exists_written_of_readBucket first written with
      ⟨_, none, _⟩ | ⟨all, wholeAll, rfl, mirrorsAll, written⟩
    · cases none
    · exact ⟨wholeAll :: wholeAny :: items, written, .list mirrorsAll mirrorsAny⟩

/-! ### Whole filters -/

/-- A filter that was read mirrors what is written there, and names each bucket once itself. -/
theorem exists_written_of_readGroup {group : Group}
    (read : readGroup depth text = .ok (group, rest)) :
    ∃ whole, WrittenAt depth text whole rest ∧ Mirrors group.toNode whole ∧
      NamesBucketsOnce whole := by
  rcases Json.expectRecord_eq_ok_iff.mp read with ⟨less, inner, last, rfl,
    ⟨bracket, list, closed⟩ | ⟨buckets, brace, object, same, closed⟩⟩
  · obtain ⟨⟨buckets, after⟩, items, same⟩ := (map_eq_ok_iff _ _ _).mp list
    obtain ⟨rfl, rfl⟩ := Prod.mk.inj same
    obtain ⟨last, next, closed⟩ := Json.nextItem_of_closeList closed
    obtain ⟨wholes, written, mirrors⟩ := exists_written_of_readBucketItems items (.close next)
    exact ⟨.array wholes, .array bracket written closed, mirrors, trivial⟩
  · obtain rfl := Except.ok.inj same
    obtain ⟨members, written, mirrors⟩ :=
      Json.objectMembers_related object Buckets.MirrorMembers.nil fun _ _ _ _ _ _ =>
        Buckets.MirrorMembers.exists_written
    exact ⟨.object members, .object brace ⟨_, written⟩ closed, mirrors.object⟩

/-- Whether a value is all that is written in a text. -/
def IsWritten (text : Source) (whole : Json) : Prop :=
  ∃ rest, WrittenAt Json.greatestDepth text whole rest ∧ skipBlanks rest = []

/-- A text has one value at most. -/
theorem IsWritten.unique {whole other : Json} (first : IsWritten text whole)
    (second : IsWritten text other) : whole = other := by
  obtain ⟨_, one, _⟩ := first
  obtain ⟨_, two, _⟩ := second
  exact (one.unique two).1

/-- Whether a filter says what is written in a text, and all of it unless a nested group names a
bucket twice. -/
structure SaysWritten (text : Source) (group : Group) (whole : Json) : Prop where
  /-- The value is written in the text, and no other. -/
  isWritten : ∀ other, IsWritten text other ↔ other = whole
  /-- Each node stands for what is written at its place. -/
  mirrors : Mirrors group.toNode whole
  /-- The root names each bucket once. -/
  rootOnce : NamesBucketsOnce whole
  /-- If every group names each bucket once, no condition is lost. -/
  count : AllNameBucketsOnce whole → group.conditionCount = conditionsWritten whole

/-- A filter that mirrors what is written says it. -/
theorem SaysWritten.of_mirrors {group : Group} {whole : Json} (written : IsWritten text whole)
    (mirrors : Mirrors group.toNode whole) (rootOnce : NamesBucketsOnce whole) :
    SaysWritten text group whole where
  isWritten _ := ⟨fun also => also.unique written, fun same => same ▸ written⟩
  mirrors := mirrors
  rootOnce := rootOnce
  count := conditionCount_of_mirrors mirrors

end RowFilter.Filter
