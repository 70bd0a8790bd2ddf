import RowFilter.Proofs.Predicate.Verdicts
import RowFilter.Proofs.Sql.Numbering
import RowFilter.Proofs.Sql.Truth

/-!
# Predicates and their statements

A statement that takes the values of a predicate as parameters selects exactly the rows of which the
predicate holds. The clause of a predicate is true where the predicate holds, although the two treat
null differently: in the clause a comparison with a null column is unknown rather than false, and a
comparison with null has become a test for null. The text of the clause is read back as a condition
of the same truth, whose placeholders are numbered from left to right.
-/

namespace RowFilter.Predicate

open RowFilter.Filter RowFilter.Sql

/-- The tests of a column for a value and for null are true where the comparison holds. -/
theorem comparisonClause_true_iff (record : Record) (field : String) (relation : Relation)
    (value : Value) :
    (comparisonClause field relation value).truth id record = .yes ↔
      compares (record.value? field) relation value = true := by
  have null_test : (Clause.isNull field).truth (id : Value → Value) record = .yes ↔
      (record.value? field).isNone = true := Truth.ofBool_eq_yes_iff _
  have value_test : (Clause.isNotNull field).truth (id : Value → Value) record = .yes ↔
      (record.value? field).isSome = true := Truth.ofBool_eq_yes_iff _
  have comparison := Clause.truth_compare_iff (id : Value → Value) record field relation value
  unfold comparisonClause compares
  cases relation <;> cases value.isNull
  case equal.true => exact null_test
  case notEqual.true => exact value_test
  all_goals exact comparison

/-- A list of values is true of a column where the column is equal to one of them. -/
theorem among_true_iff (record : Record) (field : String) (values : List Value) :
    (Clause.among field values).truth id record = .yes ↔
      (member field values).holds record = true := by
  rw [Clause.truth, Clause.truthIn_among_iff, List.mem_map, holds, List.any_eq_true]
  simp only [beq_iff_eq, column?_eq_value?]
  rfl

/-- The pattern of a search is true of a column where the text occurs in it. -/
theorem like_true_iff (record : Record) (field : String) (occurrence : Occurrence) (text : String) :
    (Clause.like field (.text (pattern occurrence text))).truth (id : Value → Value) record = .yes ↔
      (search field occurrence text).holds record = true := by
  have fits : (Clause.like field (.text (pattern occurrence text))).truth (id : Value → Value)
      record = .ofPattern (record.value? field) (.text (pattern occurrence text)) := rfl
  rw [fits, holds, column?_eq_value?]
  cases record.value? field with
  | none => simp [Truth.ofPattern]
  | some json =>
      cases json with
      | string whole => rw [Truth.ofPattern, Truth.ofBool_eq_yes_iff, matchesPattern_pattern]
      | _ => simp [Truth.ofPattern]

/-- The clause of a predicate is true of exactly the records of which the predicate holds. -/
theorem clause_true_iff (record : Record) (predicate : Predicate) :
    predicate.clause.truth id record = .yes ↔ predicate.holds record = true := by
  induction predicate using induction with
  | always => simp [clause, Clause.truth, Clause.truthIn, holds]
  | compare field relation value =>
      rw [clause, comparisonClause_true_iff, holds, column?_eq_value?]
  | member field values =>
      rw [clause]
      cases values with
      | nil => simp [Clause.truth, Clause.truthIn, holds]
      | cons value rest => exact among_true_iff record field (value :: rest)
  | search field occurrence text => exact like_true_iff record field occurrence text
  | isNull field =>
      rw [holds, column?_eq_value?]
      exact Truth.ofBool_eq_yes_iff _
  | isNotNull field =>
      rw [holds, column?_eq_value?]
      exact Truth.ofBool_eq_yes_iff _
  | all parts ih =>
      rw [clause, clauses_eq_map, Clause.truth_all, Truth.all_eq_yes_iff, holds_all_iff,
        List.map_map, List.forall_mem_map]
      exact forall₂_congr ih
  | any parts ih =>
      rw [clause, clauses_eq_map, Clause.truth_any, Truth.any_eq_yes_iff, holds_any_iff,
        List.map_map, List.mem_map]
      exact exists_congr fun part => and_congr_right (ih part)

/-- The clause of a predicate can be written down: a list without values has become a constant. -/
theorem clause_listsNonempty (predicate : Predicate) : predicate.clause.ListsNonempty := by
  induction predicate using induction with
  | always => trivial
  | compare field relation value =>
      unfold clause comparisonClause
      cases relation <;> cases value.isNull <;> trivial
  | member field values =>
      rw [clause]
      cases values with
      | nil => trivial
      | cons value rest => exact List.cons_ne_nil value rest
  | search field occurrence text => trivial
  | isNull field => trivial
  | isNotNull field => trivial
  | all parts ih =>
      rw [clause, clauses_eq_map, Clause.listsNonempty_all_iff, List.forall_mem_map]
      exact ih
  | any parts ih =>
      rw [clause, clauses_eq_map, Clause.listsNonempty_any_iff, List.forall_mem_map]
      exact ih

/-- The value that an operand stands for when the parameters are numbered after the given number.
What is no placeholder of a parameter stands for nothing and is taken as null. -/
def parameterValue (offset : Nat) (parameters : List Value) : Operand → Value
  | .placeholder number =>
      if offset < number then parameters.getD (number - (offset + 1)) .null else .null
  | _ => .null

/-- The numbers after the offset stand for the parameters, one by one. -/
theorem numbersStandFor_parameterValue (offset : Nat) (parameters : List Value) :
    Clause.NumbersStandFor (parameterValue offset parameters ∘ Operand.placeholder) offset
      parameters := by
  intro i bound
  have later : offset < offset + 1 + i := by omega
  have position : offset + 1 + i - (offset + 1) = i := by omega
  rw [Function.comp_apply, parameterValue, if_pos later, position, List.getD_eq_getElem?_getD,
    List.getElem?_eq_getElem bound, Option.getD_some]

/-- The text of a predicate is a condition whose operands are the placeholders of its parameters,
and which is true of exactly the records of which the predicate holds. -/
theorem toSql_true_iff_holds (predicate : Predicate) (offset : Nat) :
    ∃ condition, readCondition (predicate.toSql offset).1 = some condition ∧
      condition.operands =
        (List.range' (offset + 1) (predicate.toSql offset).2.length).map .placeholder ∧
      ∀ record, condition.truth (parameterValue offset (predicate.toSql offset).2) record = .yes ↔
        predicate.holds record = true := by
  let numbered := predicate.clause.numberedAfter offset
  have read : readCondition (numbered.text Clause.placeholder) =
      some (numbered.map Operand.placeholder).readBack :=
    readCondition_text numbered (predicate.clause_listsNonempty.numberedAfter offset)
      (fun number _ => spells_placeholder number) fun number _ => ⟨.placeholder number, rfl, rfl⟩
  refine ⟨_, read, ?_, fun record => ?_⟩
  · rw [Clause.operands_readBack, Clause.operands_map, Clause.operands_numberedAfter]
    rfl
  · let value := parameterValue offset predicate.clause.operands
    -- Putting the parameters back for their numbers gives the clause that was numbered.
    have recovered : numbered.map (value ∘ Operand.placeholder) = predicate.clause :=
      Clause.map_numberedAfter predicate.clause
        (numbersStandFor_parameterValue offset predicate.clause.operands)
    have same : (numbered.map Operand.placeholder).readBack.truth value record =
        predicate.clause.truth id record :=
      calc
        (numbered.map Operand.placeholder).readBack.truth value record
            = numbered.truth (value ∘ Operand.placeholder) record := by
              rw [Clause.truth_readBack, Clause.truth_map]
        _ = (numbered.map (value ∘ Operand.placeholder)).truth id record := by
              rw [Clause.truth_map, Function.id_comp]
        _ = predicate.clause.truth id record := by rw [recovered]
    exact (iff_of_eq (congrArg (· = Truth.yes) same)).trans (predicate.clause_true_iff record)

end RowFilter.Predicate
