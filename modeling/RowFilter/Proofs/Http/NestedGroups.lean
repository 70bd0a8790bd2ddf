import RowFilter.Proofs.Filter.Depth
import RowFilter.Proofs.Http.Transports
import RowFilter.Proofs.Http.WrittenFilters

/-!
# Nested groups in requests

A document may be nested 127 levels deep, and each group but the innermost takes two of them, so no
filter that is accepted has more than 64 groups in one another. Whatever walks a filter, even to
find out whether it is too deep, enters no more groups than that, one inside the other.
-/

namespace RowFilter.Http

open RowFilter.Filter
open Json (Source)

/-- Whether a filter has no more than so many groups in one another, so that whatever walks it
enters no more: what the limits are compared with, its validation, and both of its compilers. -/
structure NestsWithin (levels : Nat) (filter : Group) : Prop where
  /-- The filter is no deeper. -/
  depth_le : filter.depth ≤ levels
  /-- The depth that the limit is compared with is found so. -/
  depth : FoldsWithin levels Group.depth filter
  /-- The number of conditions that the limit is compared with is found so. -/
  conditionCount : FoldsWithin levels Group.conditionCount filter
  /-- The problems of the filter are found so, whatever the schema. -/
  issues : ∀ registry, FoldsWithin levels (Validation.issues registry) filter
  /-- The filter is so compiled to a predicate. -/
  predicate : FoldsWithin levels Predicate.ofFilter filter
  /-- The filter is so compiled to a clause, whatever the schema. -/
  clause : ∀ registry, FoldsWithin levels (Sql.filterClause registry) filter

theorem NestsWithin.of_depth_le {levels : Nat} {filter : Group} (shallow : filter.depth ≤ levels) :
    NestsWithin levels filter where
  depth_le := shallow
  depth := .of_depth_le (fun _ => rfl) shallow
  conditionCount := .of_depth_le (fun _ => rfl) shallow
  issues _ := .of_depth_le (fun _ => rfl) shallow
  predicate := .of_depth_le (fun _ => rfl) shallow
  clause _ := .of_depth_le (fun _ => rfl) shallow

/-- A filter that says what is written in a text has at most 64 groups in one another. -/
theorem nestsWithin_of_saysWritten {text : Source} {group : Group} {whole : Json}
    (said : SaysWritten text group whole) : NestsWithin 64 group := by
  obtain ⟨rest, written, _⟩ := (said.isWritten whole).mpr rfl
  have twice := depth_of_mirrors said.mirrors
  have levels : whole.nesting ≤ 127 := written.nesting_le
  refine .of_depth_le ?_
  rw [Group.depth_eq]
  omega

/-- A filter request that is received is the filter without buckets, or was read from a text. -/
theorem exists_parse_of_received {api : Api} {request : Request} {read : FilterRequest}
    (received : api.received request = some (.ok read)) :
    read = {} ∨ ∃ text, FilterRequest.parse text = .ok read := by
  unfold Api.received at received
  split_ifs at received with queried posted
  · obtain ⟨parameter, _, given⟩ := (bind_eq_ok_iff _ _ _).mp (Option.some.inj received)
    cases parameter with
    | none => cases given
    | some text => exact .inr ⟨_, (ofParameter_eq_ok_iff text read).mp given⟩
  · cases (posted_eq_ok_iff api request read).mp (Option.some.inj received) with
    | blank => exact .inl rfl
    | body _ _ parsed => exact .inr ⟨_, parsed⟩

/-- Every filter that is accepted, as a filter or in a filter request, has at most 64 groups in one
another, and so has the filter of every request that a route receives, whatever the limits. So the
check of the limits, validation and both compilers enter at most 64 groups, one inside the other. -/
theorem accepted_nestsWithin :
    (∀ text group, Json.document readGroup text = .ok group → NestsWithin 64 group) ∧
    (∀ text request, FilterRequest.parse text = .ok request → NestsWithin 64 request.filter) ∧
    ∀ (api : Api) (request : Request) read, api.received request = some (.ok read) →
      NestsWithin 64 read.filter := by
  have parsed : ∀ text request, FilterRequest.parse text = .ok request →
      NestsWithin 64 request.filter := by
    intro text request accepted
    obtain ⟨whole, said⟩ := (accepted_says_written text).2 request accepted
    exact nestsWithin_of_saysWritten said
  refine ⟨fun text group accepted => ?_, parsed, fun api request read received => ?_⟩
  · obtain ⟨whole, said⟩ := (accepted_says_written text).1 group accepted
    exact nestsWithin_of_saysWritten said
  · rcases exists_parse_of_received received with rfl | ⟨text, accepted⟩
    · exact .of_depth_le (by decide)
    · exact parsed text read accepted

/-- A filter as deep as a document allows: an object with groups that are written as lists. -/
def sampleDeepest : List Char :=
  "\x7b\"or\":[".toList ++ List.replicate 125 '[' ++ List.replicate 125 ']' ++ "]\x7d".toList

/-- The sample has 64 groups in one another. It is accepted as a filter, as a filter request and in
the body of a request. -/
theorem sample_deepest_accepted :
    (∃ group, Json.document readGroup (sampleDeepest.map .char) = .ok group ∧
      group.depth = 64 ∧ NestsWithin 64 group) ∧
    ∃ read, FilterRequest.parse (sampleDeepest.map .char) = .ok read ∧
      read.filter.depth = 64 ∧ NestsWithin 64 read.filter ∧
        sampleApi.received (postOf (String.ofList sampleDeepest)) = some (.ok read) := by
  have filter : ((Json.document readGroup (sampleDeepest.map .char)).toOption.any
      (·.depth == 64)) = true := by decide +kernel
  have request : ((FilterRequest.parse (sampleDeepest.map .char)).toOption.any
      (·.filter.depth == 64)) = true := by decide +kernel
  have octets : Text.encode (String.ofList sampleDeepest) =
      sampleDeepest.flatMap Text.encodeChar := by
    rw [Text.encode, String.toList_ofList]
  have symbols : Text.decode (sampleDeepest.flatMap Text.encodeChar) =
      sampleDeepest.map .char := by
    rw [← octets, Text.decode_encode, Text.symbols, String.toList_ofList]
  obtain ⟨filters, requests, receives⟩ := accepted_nestsWithin
  constructor
  · obtain ⟨group, accepted, deep⟩ := exists_ok_of_any filter
    exact ⟨group, accepted, eq_of_beq deep, filters _ group accepted⟩
  · obtain ⟨read, accepted, deep⟩ := exists_ok_of_any request
    have body : FilterRequest.ofBody (sampleDeepest.flatMap Text.encodeChar) = .ok read :=
      (ofBody_eq_ok_iff _ _).mpr (.inr ⟨by decide +kernel, by rw [symbols, accepted]⟩)
    have received : sampleApi.received (postOf (String.ofList sampleDeepest)) =
        some (.ok read) := by
      rw [received_postOf (by rw [octets]; decide +kernel), octets, body]
    exact ⟨read, accepted, eq_of_beq deep, receives sampleApi _ read received, received⟩

end RowFilter.Http
