import RowFilter.Http.FilterRequest
import RowFilter.Proofs.Filter.WrittenText

/-!
# What is written in a request

Each condition that is written in a filter or in a request is a condition of what was read, except
where a nested group names a bucket twice: of two lists under one name the first is lost, although
the root of a filter refuses such names.
-/

namespace RowFilter.Http

open RowFilter.Filter
open Json (ItemsWritten Source WrittenAt)

namespace FilterRequest

variable {depth : Nat} {text rest : Source}

/-- A flag that was read is written there. -/
theorem exists_written_of_readConfig {config : Option String}
    (read : readConfig text = .ok (config, rest)) : ∃ whole, WrittenAt depth text whole rest := by
  rcases Json.expectOptional_eq_ok_iff.mp read with
    ⟨_, inner, start, word⟩ | ⟨spelled, _, _, token⟩
  · exact ⟨.null, .null start word⟩
  · obtain ⟨inner, quote, token⟩ := Json.expectString_eq_ok_iff.mp token
    rw [Json.skipBlanks_skipBlanks] at quote
    exact ⟨.string spelled, .string quote token⟩

/-- Whether the members of a request read so far mirror those that are written so far. -/
def Parts.MirrorMembers (parts : Parts) (members : List (String × Json)) : Prop :=
  parts.buckets.MirrorMembers members

theorem Parts.MirrorMembers.nil : Parts.MirrorMembers {} [] := Buckets.MirrorMembers.nil

/-- A member that was read mirrors a member that is written. -/
theorem Parts.MirrorMembers.exists_written {name : String} {parts more : Parts}
    {members : List (String × Json)} (mirrors : parts.MirrorMembers members)
    (read : readMember depth name parts text = .ok (more, rest)) :
    ∃ others, (Json.FromSomeBound fun bound =>
      Json.writtenMember (Json.written bound depth) name members text = .ok (others, rest)) ∧
        more.MirrorMembers others := by
  unfold readMember at read
  split at read
  · rename_i same
    subst same
    obtain ⟨⟨config, after⟩, once, same⟩ := (bind_eq_ok_iff _ _ _).mp read
    obtain ⟨rfl, rfl⟩ := Prod.mk.inj (Except.ok.inj same)
    obtain ⟨_, start, mark, once⟩ := Json.memberOnce_eq_ok_iff.mp once
    obtain ⟨whole, written⟩ := exists_written_of_readConfig once
    exact ⟨members ++ [("config", whole)], WrittenAt.member mark written,
      Buckets.MirrorMembers.append_other mirrors whole (by decide)⟩
  · obtain ⟨⟨buckets, after⟩, bucket, same⟩ := (bind_eq_ok_iff _ _ _).mp read
    obtain ⟨rfl, rfl⟩ := Prod.mk.inj (Except.ok.inj same)
    exact Buckets.MirrorMembers.exists_written mirrors bucket

/-- The filter of a request that was read mirrors what is written there, and names each bucket once
itself. -/
theorem exists_written_of_read {request : FilterRequest}
    (given : read depth text = .ok (request, rest)) :
    ∃ whole, WrittenAt depth text whole rest ∧ Mirrors request.filter.toNode whole ∧
      NamesBucketsOnce whole := by
  rcases Json.expectRecord_eq_ok_iff.mp given with ⟨less, inner, last, rfl,
    ⟨bracket, list, closed⟩ | ⟨parts, brace, object, same, closed⟩⟩
  · obtain ⟨⟨buckets, middle⟩, items, list⟩ := (bind_eq_ok_iff _ _ _).mp list
    obtain ⟨⟨config, after⟩, flag, same⟩ := (bind_eq_ok_iff _ _ _).mp list
    obtain ⟨rfl, rfl⟩ := Prod.mk.inj (Except.ok.inj same)
    obtain ⟨last, next, closed⟩ := Json.nextItem_of_closeList closed
    obtain ⟨others, written⟩ : ∃ others, ItemsWritten less false middle others last := by
      rcases ItemsWritten.of_itemOrEnd
          (fun read => (exists_written_of_readConfig read).imp fun _ written => ⟨written, trivial⟩)
          flag (.close next) with
        ⟨_, _, written⟩ | ⟨_, whole, _, _, written⟩
      · exact ⟨[], written⟩
      · exact ⟨[whole], written⟩
    obtain ⟨wholes, written, mirrors⟩ := exists_written_of_readBucketItems items written
    exact ⟨.array wholes, .array bracket written closed, mirrors, trivial⟩
  · obtain rfl := Except.ok.inj same
    obtain ⟨members, written, mirrors⟩ :=
      Json.objectMembers_related object Parts.MirrorMembers.nil fun _ _ _ _ _ _ =>
        Parts.MirrorMembers.exists_written
    exact ⟨.object members, .object brace ⟨_, written⟩ closed, Buckets.MirrorMembers.object mirrors⟩

end FilterRequest

/-- What is read of a text, as a filter or as a request, says what is written in it: the items of
each list that counts for a bucket are the nodes of the bucket, in their order, and nothing is
repeated at the root. In a nested group a bucket may be named twice, and then the last list alone
counts. If no group does so, the conditions that were read are exactly those that are written. -/
theorem accepted_says_written (text : Source) :
    (∀ group, Json.document readGroup text = .ok group →
      ∃ whole, SaysWritten text group whole) ∧
    ∀ request, FilterRequest.parse text = .ok request →
      ∃ whole, SaysWritten text request.filter whole := by
  constructor
  · intro group accepted
    obtain ⟨rest, read, blank⟩ := Json.document_eq_ok_iff.mp accepted
    obtain ⟨whole, written, mirrors, once⟩ := exists_written_of_readGroup read
    exact ⟨whole, .of_mirrors ⟨rest, written, blank⟩ mirrors once⟩
  · intro request accepted
    obtain ⟨rest, read, blank⟩ := Json.document_eq_ok_iff.mp accepted
    obtain ⟨whole, written, mirrors, once⟩ := FilterRequest.exists_written_of_read read
    exact ⟨whole, .of_mirrors ⟨rest, written, blank⟩ mirrors once⟩

/-- Users over thirty without a name. -/
def sampleNested : String :=
  "\x7b\"and\":[\x7b\"field\":\"age\",\"operator\":\"gt\",\"value\":30\x7d," ++
    "\x7b\"or\":[\x7b\"field\":\"name\",\"operator\":\"is_null\"\x7d]\x7d]\x7d"

/-- The sample is accepted both ways, and both times its two conditions are read. -/
theorem sample_nested_says_written :
    (∃ group, parse sampleNested = .ok group ∧ group.conditionCount = 2 ∧
      ∃ whole, SaysWritten (Text.symbols sampleNested) group whole) ∧
    ∃ request, FilterRequest.parse (Text.symbols sampleNested) = .ok request ∧
      request.filter.conditionCount = 2 ∧
        ∃ whole, SaysWritten (Text.symbols sampleNested) request.filter whole := by
  have group : ((parse sampleNested).toOption.any fun group =>
      group.conditionCount == 2) = true := by decide +kernel
  have request : ((FilterRequest.parse (Text.symbols sampleNested)).toOption.any fun request =>
      request.filter.conditionCount == 2) = true := by decide +kernel
  constructor
  · cases read : parse sampleNested with
    | error problem => simp [read, Except.toOption] at group
    | ok found =>
        rw [read] at group
        exact ⟨found, rfl, eq_of_beq group, (accepted_says_written _).1 found read⟩
  · cases read : FilterRequest.parse (Text.symbols sampleNested) with
    | error problem => simp [read, Except.toOption] at request
    | ok found =>
        rw [read] at request
        exact ⟨found, rfl, eq_of_beq request, (accepted_says_written _).2 found read⟩

/-- Users over thirty, but the nested group names the bucket a second time. -/
def sampleRepeated : String :=
  "\x7b\"and\":[\x7b\"and\":[\x7b\"field\":\"age\",\"operator\":\"gt\",\"value\":30\x7d]," ++
    "\"and\":[]\x7d]\x7d"

/-- The only condition that is written is lost, and the filter is accepted without any. -/
theorem sample_condition_lost :
    ∃ group whole, parse sampleRepeated = .ok group ∧
      IsWritten (Text.symbols sampleRepeated) whole ∧
        conditionsWritten whole = 1 ∧ group.conditionCount = 0 := by
  have group : ((parse sampleRepeated).toOption.any fun group =>
      group.conditionCount == 0) = true := by decide +kernel
  have whole : ((Json.written 60 Json.greatestDepth (Text.symbols sampleRepeated)).toOption.any
      fun read => conditionsWritten read.1 == 1 && read.2.isEmpty) = true := by decide +kernel
  cases accepted : parse sampleRepeated with
  | error problem => simp [accepted, Except.toOption] at group
  | ok found =>
      rw [accepted] at group
      cases read : Json.written 60 Json.greatestDepth (Text.symbols sampleRepeated) with
      | error stop => simp [read, Except.toOption] at whole
      | ok written =>
          obtain ⟨value, rest⟩ := written
          rw [read] at whole
          obtain ⟨count, blank⟩ := Bool.and_eq_true_iff.mp whole
          obtain rfl := List.isEmpty_iff.mp blank
          exact ⟨found, value, rfl, ⟨[], .of_written read, rfl⟩, eq_of_beq count, eq_of_beq group⟩

end RowFilter.Http
