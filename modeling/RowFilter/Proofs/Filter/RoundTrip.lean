import RowFilter.Proofs.Filter.Reading
import RowFilter.Proofs.Filter.Reencoding
import RowFilter.Proofs.Json.ReadBack

/-!
# Filters written and read again

A filter may be read from many texts. It is written as one of them: with its present buckets by
name, its operators as texts, its values as documents. A filter that was read, written and read
again is the same filter, if each double in it is what its own text is read as.
-/

namespace RowFilter.Filter

open Json (CollectsRows DoublesReadBack ReadsRow Source arrayChars commaSeparated memberRows)

variable {depth : Nat} {text rest : Source}

/-! ### Filters that were read -/

/-- A node that was read is decoded again from what it is encoded as. -/
theorem Node.reencodes_of_readNode {node : Node} (read : readNode depth text = .ok (node, rest)) :
    node.Reencodes depth := by
  obtain ⟨value, plain, decoded⟩ := readNode_eq_ok_iff.mp read
  exact Node.reencodes_of_nodeOfJson (Json.readable_of_value plain) decoded

theorem reencodes_of_readBucket {bucket : Option (List Node)}
    (read : readBucket depth text = .ok (bucket, rest)) : BucketReencodes depth bucket := by
  rcases readBucket_eq_ok_iff.mp read with
    ⟨rfl, _⟩ | ⟨nodes, less, inner, last, rfl, rfl, _, items, _⟩
  · exact .absent
  · exact .list (Json.forall_mem_of_listItems Node.reencodes_of_readNode items)

/-- Whether each node of a group is decoded again from what it is encoded as. -/
structure Group.Reencodes (depth : Nat) (group : Group) : Prop where
  /-- The nodes that must all hold. -/
  all : BucketReencodes depth group.all
  /-- The nodes of which one must hold. -/
  any : BucketReencodes depth group.any

/-- Reading one more bucket adds nodes that are decoded again. -/
theorem Group.Reencodes.readBucketMember {known : List String} {name : String}
    {buckets more : Buckets} (before : buckets.toGroup.Reencodes depth)
    (read : Filter.readBucketMember known depth name buckets text = .ok (more, rest)) :
    more.toGroup.Reencodes depth := by
  obtain ⟨start, bucket, _, once, ⟨_, _, rfl⟩ | ⟨_, _, rfl⟩⟩ := readBucketMember_eq_ok_iff.mp read
  · exact ⟨reencodes_of_readBucket once, before.any⟩
  · exact ⟨before.all, reencodes_of_readBucket once⟩

private theorem reencodes_of_itemOrEnd {first : Bool} {found : Option (Option (List Node))}
    (read : Json.itemOrEnd (readBucket depth) first text = .ok (found, rest)) :
    BucketReencodes depth found.join := by
  rcases Json.itemOrEnd_eq_ok_iff.mp read with ⟨_, rfl⟩ | ⟨_, bucket, _, one, rfl⟩
  · exact .absent
  · exact reencodes_of_readBucket one

/-- The nodes of a filter that was read are decoded again from what they are encoded as. -/
theorem Group.reencodes_of_readGroup {group : Group}
    (read : readGroup depth text = .ok (group, rest)) :
    ∃ less, depth = less + 1 ∧ group.Reencodes less := by
  obtain ⟨less, inner, last, rfl, ⟨_, list, _⟩ | ⟨buckets, _, object, same, _⟩⟩ :=
    Json.expectRecord_eq_ok_iff.mp read
  · obtain ⟨⟨buckets, after⟩, items, same⟩ := (map_eq_ok_iff _ _ _).mp list
    obtain ⟨rfl, rfl⟩ := Prod.mk.inj same
    obtain ⟨middle, first, second⟩ := readBucketItems_eq_ok_iff.mp items
    exact ⟨less, rfl, reencodes_of_itemOrEnd first, reencodes_of_itemOrEnd second⟩
  · obtain rfl := Except.ok.inj same
    exact ⟨less, rfl, Json.objectMembers_invariant
      (P := fun buckets => buckets.toGroup.Reencodes less)
      Group.Reencodes.readBucketMember ⟨.absent, .absent⟩ object⟩

/-! ### Filters that are written -/

/-- A node is read from what it is written as. -/
theorem readsRow_node {node : Node} (reencodes : node.Reencodes depth)
    (back : DoublesReadBack node.toJson) :
    ReadsRow (readNode depth) node.toJson.chars node where
  starts := (Json.spells_chars reencodes.readable back).readsRow_plain.starts
  reads stops := readNode_eq_ok_iff.mpr
    ⟨_, (Json.spells_chars reencodes.readable back).readsRow_plain.reads stops, reencodes.decoded⟩

/-- A bucket is read from the list that it is written as. -/
theorem readBucket_chars {nodes : List Node} (each : ∀ node ∈ nodes, node.Reencodes depth)
    (back : DoublesReadBack (.array (nodes.map Node.toJson))) (rest : Source) :
    readBucket (depth + 1) ((Json.array (nodes.map Node.toJson)).chars.map .char ++ rest) =
      .ok (some nodes, rest) := by
  have written : (Json.array (nodes.map Node.toJson)).chars.map Text.Symbol.char ++ rest =
      .char '[' :: ((commaSeparated (nodes.map fun node => node.toJson.chars)).map .char ++
        .char ']' :: rest) := by
    rw [Json.chars, Json.charsOfItems_eq_map, List.map_map, Json.map_arrayChars_append]
    rfl
  have rows : List.Forall₂ (ReadsRow (readNode depth))
      (nodes.map fun node => node.toJson.chars) nodes := by
    rw [List.forall₂_map_left_iff, List.forall₂_same]
    exact fun node hnode =>
      readsRow_node (each node hnode) (back.item (List.mem_map_of_mem hnode))
  have count := Json.length_le_commaSeparated (nodes.map fun node => node.toJson.chars)
  rw [written]
  refine readBucket_eq_ok_iff.mpr (.inr ⟨nodes, depth, _, _, rfl, rfl, rfl,
    Json.listItems_commaSeparated rows ?_ rest, rfl⟩)
  simp only [List.length_append, List.length_map, List.length_cons] at count ⊢
  omega

/-- A bucket is collected from its member, if it has one, before the members after it. -/
theorem collectsRows_bucketMembers {name : String} {bucket : Option (List Node)}
    (reencodes : BucketReencodes depth bucket)
    (back : ∀ member ∈ bucketMembers name bucket, DoublesReadBack member.2)
    {before after all : Buckets}
    (fills : (name = "and" ∧ before.all = none ∧ after = { before with all := bucket.map some }) ∨
      (name = "or" ∧ before.any = none ∧ after = { before with any := bucket.map some }))
    {named : List (String × List Char)}
    (others : CollectsRows (readBucketMember groupFields depth) after named all) :
    CollectsRows (readBucketMember groupFields depth) before
      ((bucketMembers name bucket).map (fun member => (member.1, member.2.chars)) ++ named)
        all := by
  cases reencodes with
  | absent =>
      have same : after = before := by
        obtain ⟨first, second⟩ := before
        rcases fills with ⟨_, unseen, rfl⟩ | ⟨_, unseen, rfl⟩
        · exact congrArg (Buckets.mk · second) unseen.symm
        · exact congrArg (Buckets.mk first) unseen.symm
      exact same ▸ others
  | @list depth nodes each =>
      refine .cons (fun {rest} _ => ?_) others
      have whole : DoublesReadBack (.array (nodes.map Node.toJson)) :=
        back _ (List.mem_singleton_self (name, _))
      have read := readBucket_chars each whole rest
      exact readBucketMember_eq_ok_iff.mpr ⟨_, some nodes, rfl, read, fills⟩

/-- A filter is read from what it is written as. -/
theorem readGroup_chars {group : Group} (reencodes : group.Reencodes depth)
    (back : DoublesReadBack group.toJson) :
    readGroup (depth + 1) (group.toJson.chars.map .char) = .ok (group, []) := by
  obtain ⟨all, any⟩ := group
  have encoded : Group.toJson ⟨all, any⟩ =
      .object (bucketMembers "and" all ++ bucketMembers "or" any) := Node.toJson_group all any
  rw [encoded] at back ⊢
  have members : (∀ member ∈ bucketMembers "and" all, DoublesReadBack member.2) ∧
      ∀ member ∈ bucketMembers "or" any, DoublesReadBack member.2 :=
    List.forall_mem_append.mp fun _ => back.member
  -- The buckets are collected in their order, the second after the first.
  have second : CollectsRows (readBucketMember groupFields depth) ⟨all.map some, none⟩ _ _ :=
    collectsRows_bucketMembers reencodes.any members.2 (.inr ⟨rfl, rfl, rfl⟩) (.nil _)
  have collects : CollectsRows (readBucketMember groupFields depth) {} _ _ :=
    collectsRows_bucketMembers reencodes.all members.1 (.inl ⟨rfl, rfl, rfl⟩) second
  rw [List.append_nil, ← List.map_append] at collects
  rw [Json.chars, Json.charsOfMembers_eq_map]
  generalize (bucketMembers "and" all ++ bucketMembers "or" any).map
    (fun member => (member.1, member.2.chars)) = named at collects
  have count := Json.length_le_memberRows named
  have written := Json.map_objectChars_append named []
  rw [List.append_nil] at written
  rw [written]
  refine Json.expectRecord_eq_ok_iff.mpr ⟨depth, _, _, rfl, .inr ⟨_, rfl,
    Json.objectMembers_commaSeparated collects ?_ [], ?_, rfl⟩⟩
  · simp only [List.length_append, List.length_map, List.length_cons, List.length_nil]
    omega
  · cases all <;> cases any <;> rfl

/-- A filter that was read from any text, written and read again is the same filter, with the same
buckets present, the same conditions in the same order and the same values, absent ones apart from
null ones; so it is written as the same text again. Of each double in it it is assumed that it is
what its own text is read as. -/
theorem text_reads_back {source : Source} {group : Group}
    (accepted : Json.document readGroup source = .ok group)
    (back : DoublesReadBack group.toJson) :
    ∃ again, parse group.text = .ok again ∧ again = group ∧ again.text = group.text := by
  obtain ⟨rest, read, _⟩ := Json.document_eq_ok_iff.mp accepted
  obtain ⟨less, deep, reencodes⟩ := Group.reencodes_of_readGroup read
  refine ⟨group, Json.document_eq_ok_iff.mpr ⟨[], ?_, rfl⟩, rfl, rfl⟩
  rw [Group.text, Json.text, Text.symbols, String.toList_ofList, deep]
  exact readGroup_chars reencodes back

/-- A filter with a bucket that is null, a number beyond 64 bits with sign, a group that is a list
and members out of their order; one condition has no value. -/
def sampleMixed : String :=
  "\x7b\"or\":null,\"and\":[" ++
    "\x7b\"value\":18446744073709551615,\"field\":\"a\",\"operator\":\"eq\"\x7d," ++
    "[null,[\x7b\"field\":\"b\",\"operator\":\"is_null\"\x7d]]," ++
    "\x7b\"field\":\"c\",\"operator\":\"in\",\"value\":[null,\x7b\"y\":1,\"x\":0.5\x7d]\x7d]\x7d"

/-- The text that the sample is written as. -/
def sampleMixedText : String :=
  "\x7b\"and\":[\x7b\"field\":\"a\",\"operator\":\"eq\",\"value\":1.8446744073709552e+19\x7d," ++
    "\x7b\"or\":[\x7b\"field\":\"b\",\"operator\":\"is_null\"\x7d]\x7d," ++
    "\x7b\"field\":\"c\",\"operator\":\"in\",\"value\":[null,\x7b\"x\":0.5,\"y\":1\x7d]\x7d]\x7d"

/-- The sample holds two doubles, which read back, and is the filter of its other text too. -/
theorem sample_mixed_reads_back :
    ∃ group, parse sampleMixed = .ok group ∧ group.toJson.doubles.length = 2 ∧
      group.text = sampleMixedText ∧
        ∃ again, parse group.text = .ok again ∧ again = group ∧ again.text = group.text := by
  have sample : ((parse sampleMixed).toOption.any fun group =>
      group.toJson.doubles.length == 2 && group.text == sampleMixedText &&
        decide (DoublesReadBack group.toJson)) = true := by decide +kernel
  cases read : parse sampleMixed with
  | error problem => simp [read, Except.toOption] at sample
  | ok group =>
      rw [read] at sample
      simp only [Except.toOption, Option.any_some, Bool.and_eq_true, beq_iff_eq,
        decide_eq_true_eq] at sample
      obtain ⟨⟨count, written⟩, back⟩ := sample
      exact ⟨group, rfl, count, written, text_reads_back read back⟩

end RowFilter.Filter
