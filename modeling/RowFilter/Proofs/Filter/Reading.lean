import RowFilter.Filter.Reader
import RowFilter.Proofs.Json.Collections

/-!
# What readers of filters do

The readers of nodes, of buckets and of the members of a group, each stated by what it reads one
after the other.
-/

namespace RowFilter.Filter

open Json (Source colon skipBlanks)

variable {depth : Nat} {text rest : Source}

/-- A node is read as a value first and then decoded. -/
theorem readNode_eq_ok_iff {node : Node} :
    readNode depth text = .ok (node, rest) ↔
      ∃ value, Json.plain depth text = .ok (value, rest) ∧ nodeOfJson value = .ok node := by
  simp only [readNode, bind_eq_ok_iff, Prod.exists]
  constructor
  · rintro ⟨value, after, plain, read⟩
    cases decoded : nodeOfJson value with
    | error fault => simp [decoded, throw, throwThe, MonadExceptOf.throw] at read
    | ok found =>
        simp only [decoded, pure, Except.pure, Except.ok.injEq, Prod.mk.injEq] at read
        obtain ⟨rfl, rfl⟩ := read
        exact ⟨value, plain, decoded⟩
  · rintro ⟨value, plain, decoded⟩
    refine ⟨value, rest, plain, ?_⟩
    rw [decoded]
    rfl

/-- A bucket is absent where null stands, and else has the nodes of a list. -/
theorem readBucket_eq_ok_iff {bucket : Option (List Node)} :
    readBucket depth text = .ok (bucket, rest) ↔
      (bucket = none ∧ ∃ inner, skipBlanks text = .char 'n' :: inner ∧
        Json.keyword ['u', 'l', 'l'] inner = .ok rest) ∨
        ∃ nodes less inner last, bucket = some nodes ∧ depth = less + 1 ∧
          skipBlanks text = .char '[' :: inner ∧
            Json.listItems (readNode less) (inner.length + 1) true inner = .ok (nodes, last) ∧
              Json.closeList last = ⟨none, rest⟩ := by
  rw [readBucket, Json.expectOptional_eq_ok_iff]
  refine or_congr_right ?_
  simp only [Json.expectList_eq_ok_iff, Json.skipBlanks_skipBlanks]
  constructor
  · rintro ⟨nodes, rfl, _, less, inner, last, rfl, bracket, items, closed⟩
    exact ⟨nodes, less, inner, last, rfl, rfl, bracket, items, closed⟩
  · rintro ⟨nodes, less, inner, last, rfl, rfl, bracket, items, closed⟩
    exact ⟨nodes, rfl, by simp [bracket], less, inner, last, rfl, bracket, items, closed⟩

/-- A member of a group is one of the two buckets, which was not read before. -/
theorem readBucketMember_eq_ok_iff {known : List String} {name : String} {buckets more : Buckets} :
    readBucketMember known depth name buckets text = .ok (more, rest) ↔
      ∃ start bucket, colon text = .ok start ∧ readBucket depth start = .ok (bucket, rest) ∧
        ((name = "and" ∧ buckets.all = none ∧ more = { buckets with all := some bucket }) ∨
          (name = "or" ∧ buckets.any = none ∧ more = { buckets with any := some bucket })) := by
  unfold readBucketMember
  split
  · rename_i same
    subst same
    simp only [bind_eq_ok_iff, Json.memberOnce_eq_ok_iff, pure, Except.pure, Except.ok.injEq,
      Prod.exists, Prod.mk.injEq, true_and, String.reduceEq, false_and, or_false]
    constructor
    · rintro ⟨bucket, after, ⟨unseen, start, mark, read⟩, rfl, rfl⟩
      exact ⟨start, bucket, mark, read, unseen, rfl⟩
    · rintro ⟨start, bucket, mark, read, unseen, rfl⟩
      exact ⟨bucket, rest, ⟨unseen, start, mark, read⟩, rfl, rfl⟩
  · rename_i notAll
    split
    · rename_i same
      subst same
      simp only [bind_eq_ok_iff, Json.memberOnce_eq_ok_iff, pure, Except.pure, Except.ok.injEq,
        Prod.exists, Prod.mk.injEq, true_and, notAll, false_and, false_or]
      constructor
      · rintro ⟨bucket, after, ⟨unseen, start, mark, read⟩, rfl, rfl⟩
        exact ⟨start, bucket, mark, read, unseen, rfl⟩
      · rintro ⟨start, bucket, mark, read, unseen, rfl⟩
        exact ⟨bucket, rest, ⟨unseen, start, mark, read⟩, rfl, rfl⟩
    · rename_i notAny
      simp [notAll, notAny]

/-- Buckets by position are read one after the other, each unless the list ends before it. -/
theorem readBucketItems_eq_ok_iff {buckets : Buckets} :
    readBucketItems depth text = .ok (buckets, rest) ↔
      ∃ middle, Json.itemOrEnd (readBucket depth) true text = .ok (buckets.all, middle) ∧
        Json.itemOrEnd (readBucket depth) false middle = .ok (buckets.any, rest) := by
  simp only [readBucketItems, bind_eq_ok_iff, Prod.exists, pure, Except.pure, Except.ok.injEq,
    Prod.mk.injEq]
  constructor
  · rintro ⟨all, middle, first, any, after, second, rfl, rfl⟩
    exact ⟨middle, first, second⟩
  · rintro ⟨middle, first, second⟩
    exact ⟨buckets.all, middle, first, buckets.any, rest, second, rfl, rfl⟩

end RowFilter.Filter
