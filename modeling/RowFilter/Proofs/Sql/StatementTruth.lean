import RowFilter.Proofs.Predicate.Combining
import RowFilter.Proofs.Predicate.Parameterised
import RowFilter.Proofs.Sql.StatementText

/-!
# Two compilers of one filter

A filter is compiled to a predicate or to a statement that carries its values. The compilers drop
groups that constrain nothing and keep single parts in different ways, but the statement selects
exactly the rows of which the predicate holds, and has no condition exactly when the predicate is
true of everything.

Both are compared with what a group means, without regard to dropping: all clauses of its first
bucket select the row, and one of its second, where an absent clause selects every row.
-/

namespace RowFilter.Sql

open RowFilter.Filter RowFilter.Schema

/-- Whether a row is selected: there is no clause, or it is true when literals stand for the values
they come from. -/
def Selects (clause : Option (Clause Rendered)) (record : Record) : Prop :=
  ∀ condition ∈ clause, condition.truth Rendered.value record = .yes

theorem selects_none (record : Record) : Selects none record := by
  intro condition hcondition
  simp at hcondition

@[simp] theorem selects_some_iff (condition : Clause Rendered) (record : Record) :
    Selects (some condition) record ↔ condition.truth Rendered.value record = .yes := by
  simp [Selects]

private theorem forall_filterMap_iff (clauses : List (Option (Clause Rendered))) (record : Record) :
    (∀ part ∈ clauses.filterMap id, part.truth Rendered.value record = .yes) ↔
      ∀ clause ∈ clauses, Selects clause record := by
  constructor
  · intro each clause hclause part hpart
    exact each part (List.mem_filterMap.mpr ⟨clause, hclause, hpart⟩)
  · intro each part hpart
    obtain ⟨clause, hclause, same⟩ := List.mem_filterMap.mp hpart
    exact each clause hclause part same

/-- The clause of a bucket of all selects a row if every clause of the bucket does. -/
theorem selects_allBucket_iff (clauses : List (Option (Clause Rendered))) (record : Record) :
    Selects (bucketClause .all (clauses.filterMap id)) record ↔
      ∀ clause ∈ clauses, Selects clause record := by
  rw [← forall_filterMap_iff]
  cases clauses.filterMap id with
  | nil => simp [bucketClause, selects_none]
  | cons part rest =>
      show Selects (some (.all (part :: rest))) record ↔ _
      rw [selects_some_iff, Clause.truth_all, Truth.all_eq_yes_iff, List.forall_mem_map]

private theorem eq_map_some {clauses : List (Option (Clause Rendered))} (present : none ∉ clauses) :
    clauses = (clauses.filterMap id).map some := by
  induction clauses with
  | nil => rfl
  | cons clause rest ih =>
      rw [List.mem_cons, not_or] at present
      cases clause with
      | none => exact absurd rfl present.1
      | some condition =>
          have later := ih present.2
          rw [List.filterMap_cons, id_eq, List.map_cons, ← later]

/-- The clause of a bucket of any selects a row if the bucket is empty or one of its clauses
does. -/
theorem selects_anyBucket_iff (clauses : List (Option (Clause Rendered))) (record : Record) :
    Selects (anyBucketClause clauses) record ↔
      clauses = [] ∨ ∃ clause ∈ clauses, Selects clause record := by
  unfold anyBucketClause
  by_cases absent : none ∈ clauses
  · rw [if_pos ((any_isNone_iff clauses).mpr absent)]
    exact iff_of_true (selects_none record) (.inr ⟨none, absent, selects_none record⟩)
  · rw [if_neg (mt (any_isNone_iff clauses).mp absent)]
    have same := eq_map_some absent
    generalize clauses.filterMap id = conditions at same
    rw [same]
    cases conditions with
    | nil => simp [bucketClause, selects_none]
    | cons condition rest =>
        show Selects (some (.any (condition :: rest))) record ↔ _
        rw [selects_some_iff, Clause.truth_any, Truth.any_eq_yes_iff, List.mem_map]
        simp only [List.map_eq_nil_iff, reduceCtorEq, false_or, List.mem_map,
          exists_exists_and_eq_and, selects_some_iff]

/-- The clause of a group selects a row if all clauses of its first bucket do, and one of its second
unless it is empty. -/
theorem selects_groupClause_iff (all any : List (Option (Clause Rendered))) (record : Record) :
    Selects (groupClause all any) record ↔
      (∀ clause ∈ all, Selects clause record) ∧
      (any = [] ∨ ∃ clause ∈ any, Selects clause record) := by
  have together : ∀ left right : Option (Clause Rendered), Selects (bothClauses left right) record ↔
      Selects left record ∧ Selects right record := by
    intro left right
    cases left with
    | none => simp [bothClauses, selects_none]
    | some left =>
        cases right with
        | none => simp [bothClauses, selects_none]
        | some right => simp [bothClauses, Clause.truth_both]
  rw [groupClause_eq, together, selects_allBucket_iff, selects_anyBucket_iff]

/-- A group has no clause if no node of its first bucket has one, and its second is empty or has a
node without one. -/
theorem groupClause_eq_none_iff (all any : List (Option (Clause Rendered))) :
    groupClause all any = none ↔
      (∀ clause ∈ all, clause = none) ∧ (any = [] ∨ ∃ clause ∈ any, clause = none) := by
  have allBucket : bucketClause .all (all.filterMap id) = none ↔ ∀ clause ∈ all, clause = none := by
    rw [bucketClause_eq_none_iff, List.filterMap_eq_nil_iff]
    rfl
  have anyBucket : anyBucketClause any = none ↔ any = [] ∨ ∃ clause ∈ any, clause = none := by
    unfold anyBucketClause
    simp only [exists_eq_right]
    by_cases absent : none ∈ any
    · rw [if_pos ((any_isNone_iff any).mpr absent)]
      exact iff_of_true rfl (.inr absent)
    · rw [if_neg (mt (any_isNone_iff any).mp absent), bucketClause_eq_none_iff]
      have same := eq_map_some absent
      generalize any.filterMap id = conditions at same
      rw [or_iff_left absent, same, List.map_eq_nil_iff]
  have neither : ∀ left right : Option (Clause Rendered), bothClauses left right = none ↔
      left = none ∧ right = none := by
    intro left right
    cases left <;> cases right <;> simp [bothClauses]
  rw [groupClause_eq, neither, allBucket, anyBucket]

/-- Whether a clause and a predicate say the same of every row, and constrain nothing together. -/
structure Agree (clause : Option (Clause Rendered)) (predicate : Predicate) : Prop where
  /-- The clause is absent exactly if the predicate is true of everything. -/
  absent_iff : clause = none ↔ predicate = .always
  /-- A row is selected exactly if the predicate holds of it. -/
  selects_iff : ∀ record, Selects clause record ↔ predicate.holds record = true

/-- A comparison whose value is not null, or that is neither `=` nor `!=`, is true where the
predicate's comparison holds. -/
theorem comparison_true_iff (record : Record) (field : String) (relation : Relation)
    (operand : Rendered)
    (plain : operand.value.isNull = false ∨ relation ≠ .equal ∧ relation ≠ .notEqual) :
    (Clause.compare field relation operand).truth Rendered.value record = .yes ↔
      (Predicate.compare field relation operand.value).holds record = true := by
  have same : Predicate.comparisonClause field relation operand.value =
      .compare field relation operand.value := by
    unfold Predicate.comparisonClause
    rcases plain with notNull | ⟨notEqual, notUnequal⟩
    · rw [notNull]
      cases relation <;> rfl
    · cases relation <;> first | rfl | contradiction
  rw [← Predicate.clause_true_iff, Predicate.clause, same]
  exact iff_of_eq (congrArg (· = Truth.yes)
    (Clause.truth_map Rendered.value id record (.compare field relation operand)).symm)

/-- The clause and the predicate of a condition agree. -/
theorem agree_of_renderedTest {field : Field} {condition : Condition} {clause : Clause Rendered}
    (compiled : renderedTest field condition = .ok clause) :
    ∃ predicate, Predicate.ofCondition condition = .ok predicate ∧
      Agree (some clause) predicate := by
  rw [renderedTest] at compiled
  rw [Predicate.ofCondition_eq]
  cases kind : condition.operator.kind with
  | comparison relation =>
      simp only [kind, bind_eq_ok_iff] at compiled
      obtain ⟨value, argument, operand, hoperand, same⟩ := compiled
      obtain rfl := Except.ok.inj same
      obtain ⟨_, rfl⟩ := (rendered_eq_ok_iff _ _ _).mp hoperand
      have notNull :=
        Value.isNull_of_isScalar ((Condition.scalarArgument_eq_ok_iff _).mp argument).2
      refine ⟨_, congrArg (Except.map _) argument, by simp, fun record => ?_⟩
      rw [selects_some_iff]
      exact comparison_true_iff record condition.field relation operand (.inl notNull)
  | member =>
      simp only [kind, bind_eq_ok_iff, collect_map_eq_ok_iff] at compiled
      obtain ⟨values, argument, operands, hoperands, same⟩ := compiled
      have sources : operands.map Rendered.value = values := map_value_of_rendered hoperands
      refine ⟨_, congrArg (Except.map _) argument, ?_, fun record => ?_⟩
      · obtain rfl := Except.ok.inj same
        simp
      · rw [← Predicate.clause_true_iff, Predicate.clause, ← sources]
        cases operands with
        | nil =>
            obtain rfl := Except.ok.inj same
            exact selects_some_iff _ _
        | cons first rest =>
            obtain rfl := Except.ok.inj same
            rw [selects_some_iff]
            exact iff_of_eq (congrArg (· = Truth.yes)
              (Clause.truth_map Rendered.value id record
                (.among condition.field (first :: rest))).symm)
  | between =>
      simp only [kind, bind_eq_ok_iff] at compiled
      obtain ⟨⟨low, high⟩, argument, first, hfirst, second, hsecond, same⟩ := compiled
      obtain rfl := Except.ok.inj same
      obtain ⟨_, rfl⟩ := (rendered_eq_ok_iff _ _ _).mp hfirst
      obtain ⟨_, rfl⟩ := (rendered_eq_ok_iff _ _ _).mp hsecond
      refine ⟨_, congrArg (Except.map _) argument, by simp, fun record => ?_⟩
      rw [selects_some_iff, Clause.truth_between_iff, Predicate.holds_all_iff,
        List.forall_mem_cons, List.forall_mem_singleton,
        comparison_true_iff record _ _ _ (.inr (by decide)),
        comparison_true_iff record _ _ _ (.inr (by decide))]
  | search occurrence =>
      simp only [kind, bind_eq_ok_iff] at compiled
      obtain ⟨value, argument, same⟩ := compiled
      obtain rfl := Except.ok.inj same
      refine ⟨_, congrArg (Except.map _) argument, by simp, fun record => ?_⟩
      rw [selects_some_iff]
      exact Predicate.like_true_iff record condition.field occurrence value.display
  | isNull =>
      simp only [kind, Except.ok.injEq] at compiled
      refine ⟨_, rfl, by simp, fun record => ?_⟩
      rw [← compiled, selects_some_iff]
      exact Predicate.clause_true_iff record (.isNull condition.field)
  | isNotNull =>
      simp only [kind, Except.ok.injEq] at compiled
      refine ⟨_, rfl, by simp, fun record => ?_⟩
      rw [← compiled, selects_some_iff]
      exact Predicate.clause_true_iff record (.isNotNull condition.field)

section Related

variable {α β : Type} {R : α → β → Prop} {as : List α} {bs : List β} {P : α → Prop} {Q : β → Prop}

private theorem forall_iff_of_related (related : List.Forall₂ R as bs)
    (same : ∀ a b, R a b → (P a ↔ Q b)) :
    (∀ a ∈ as, P a) ↔ ∀ b ∈ bs, Q b := by
  induction related with
  | nil => simp
  | cons head tail ih => rw [List.forall_mem_cons, List.forall_mem_cons, same _ _ head, ih]

private theorem empty_or_exists_iff_of_related (related : List.Forall₂ R as bs)
    (same : ∀ a b, R a b → (P a ↔ Q b)) :
    (as = [] ∨ ∃ a ∈ as, P a) ↔ bs = [] ∨ ∃ b ∈ bs, Q b := by
  have empty : as = [] ↔ bs = [] := by cases related <;> simp
  apply or_congr empty
  clear empty
  induction related with
  | nil => simp
  | cons head tail ih => rw [List.exists_mem_cons_iff, List.exists_mem_cons_iff, same _ _ head, ih]

end Related

/-- The clause and the predicate of a group agree if those of its nodes do. -/
theorem agree_group {alls anys : List (Option (Clause Rendered))}
    {allParts anyParts : List Predicate} (inAll : List.Forall₂ Agree alls allParts)
    (inAny : List.Forall₂ Agree anys anyParts) :
    Agree (groupClause alls anys) (Predicate.ofGroup allParts anyParts) where
  absent_iff := by
    have absent : ∀ clause predicate, Agree clause predicate →
        (clause = none ↔ predicate = .always) :=
      fun _ _ agree => agree.absent_iff
    rw [groupClause_eq_none_iff, Predicate.ofGroup_eq_always_iff,
      forall_iff_of_related inAll absent, empty_or_exists_iff_of_related inAny absent]
  selects_iff record := by
    have selects : ∀ clause predicate, Agree clause predicate →
        (Selects clause record ↔ predicate.holds record = true) :=
      fun _ _ agree => agree.selects_iff record
    rw [selects_groupClause_iff, Predicate.holds_ofGroup_iff, forall_iff_of_related inAll selects,
      empty_or_exists_iff_of_related inAny selects]

/-- Where a filter has a statement it has a predicate, and the two agree. -/
theorem agree_of_renderedClause {registry : Registry} {filter : Group}
    {clause : Option (Clause Rendered)} (compiled : renderedClause registry filter = .ok clause) :
    ∃ predicate, Predicate.ofFilter filter = .ok predicate ∧ Agree clause predicate := by
  rw [Predicate.ofFilter_eq_fold]
  refine Node.fold_related ?_ (fun _ _ _ _ => agree_group) compiled
  intro condition _ result hresult
  obtain ⟨test, htest, rfl⟩ := (map_eq_ok_iff _ _ _).mp hresult
  rw [renderedCondition] at htest
  split at htest
  · cases htest
  · exact agree_of_renderedTest htest

/-- The literals of a filter's statement, from left to right, each beside the value that it comes
from. -/
def renderings (registry : Registry) (filter : Group) : Except Failure (List Rendered) :=
  (renderedClause registry filter).map fun clause => (clause.map Clause.operands).getD []

/-- A statement of a filter is read back as its table and a condition, and the i-th literal of the
condition is the i-th that was rendered from the filter. With every literal standing for the value
it was rendered from, the condition is true of exactly the rows of which the filter's predicate
holds; and it is absent exactly if the predicate is true of everything. -/
theorem statement_true_iff_holds {registry : Registry} {filter : Group} {table text : String}
    (compiled : statement registry filter table = .ok text) :
    ∃ predicate condition,
      Predicate.ofFilter filter = .ok predicate ∧
      readStatement text = some (table, condition.map (Clause.map Rendered.operand)) ∧
      renderings registry filter = .ok ((condition.map Clause.operands).getD []) ∧
      (condition = none ↔ predicate = .always) ∧
      ∀ clause ∈ condition, ∀ record,
        clause.truth Rendered.value record = .yes ↔ predicate.holds record = true := by
  simp only [statement, bind_eq_ok_iff, filterClause_eq_map_renderedClause,
    map_eq_ok_iff] at compiled
  obtain ⟨_, ⟨clause, hclause, rfl⟩, same⟩ := compiled
  obtain rfl := Except.ok.inj same
  obtain ⟨predicate, hpredicate, agree⟩ := agree_of_renderedClause hclause
  have traced := traced_of_renderedClause hclause
  have lists : ∀ condition ∈ clause.map (Clause.map Rendered.literal), condition.ListsNonempty := by
    intro condition hcondition
    obtain ⟨original, horiginal, rfl⟩ := Option.map_eq_some_iff.mp hcondition
    exact (Clause.listsNonempty_map_iff _ _).mpr (traced original horiginal).lists
  have wellFormed : ∀ condition ∈ clause.map (Clause.map Rendered.literal),
      ∀ literal ∈ condition.operands,
      literal.WellFormed := by
    intro condition hcondition
    obtain ⟨original, horiginal, rfl⟩ := Option.map_eq_some_iff.mp hcondition
    exact (traced original horiginal).wellFormed
  have read := readStatement_selectAll table lists wellFormed
  refine ⟨predicate, clause.map Clause.readBack, hpredicate, ?_, ?_, ?_, ?_⟩
  · rw [read, Option.map_map, Option.map_map]
    cases clause with
    | none => rfl
    | some original =>
        simp only [Option.map_some, Function.comp_apply, Clause.map_map, ← Clause.readBack_map]
        rfl
  · rw [renderings, hclause, Except.map, Option.map_map]
    cases clause with
    | none => rfl
    | some original => simp only [Option.map_some, Function.comp_apply, Clause.operands_readBack]
  · rw [Option.map_eq_none_iff, agree.absent_iff]
  · intro condition hcondition record
    obtain ⟨original, horiginal, rfl⟩ := Option.map_eq_some_iff.mp hcondition
    obtain rfl : clause = some original := horiginal
    rw [Clause.truth_readBack, ← selects_some_iff, agree.selects_iff]

/-- The sample's condition is read back and is true of a row in range whose name holds the text in
another case. -/
theorem sample_true : ∃ condition : Clause Rendered,
    readStatement sampleStatement = some ("users", some (condition.map Rendered.operand)) ∧
      condition.truth Rendered.value
        [("age", .number (.integer 30)), ("na\"me", .string "Jo_Bo"), ("role", .string "guest")] =
          .yes := by
  obtain ⟨predicate, condition, compiled, read, _, absent, same⟩ :=
    statement_true_iff_holds statement_sample
  have known : Predicate.ofFilter sampleFilter = .ok (.any [.all [
      .all [.compare "age" .greaterOrEqual (.integer 18),
        .compare "age" .lessOrEqual (.integer 65)],
      .any [.compare "role" .equal (.text "it's"), .search "na\"me" .anywhere "O_b"]],
        .isNull "na\"me"]) := rfl
  obtain rfl := Except.ok.inj (known.symm.trans compiled)
  cases condition with
  | none => simp at absent
  | some condition => exact ⟨condition, read, (same condition rfl _).mpr (by decide +kernel)⟩

end RowFilter.Sql
