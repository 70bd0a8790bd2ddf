import RowFilter.Proofs.Predicate.Recursion
import RowFilter.Proofs.Sql.Numbering

/-!
# Shapes of predicates

Two predicates have the same shape if they test the same fields in the same ways, whatever they
compare the fields with: only tests for null and the number of values in a list belong to the shape.
The text of a predicate's clause depends on the shape alone. The clauses of two predicates of the
same shape differ only in their operands, and numbering the operands forgets them.
-/

namespace RowFilter

open RowFilter.Filter RowFilter.Sql

/-! ### Clauses without operands -/

namespace Sql.Clause

variable {α : Type} {clause other : Clause α}

/-- A clause with nothing in the places of its operands. -/
def erased (clause : Clause α) : Clause Unit := clause.map fun _ => ()

theorem erased_all (parts : List (Clause α)) : (all parts).erased = .all (parts.map erased) :=
  map_all _ parts

theorem erased_any (parts : List (Clause α)) : (any parts).erased = .any (parts.map erased) :=
  map_any _ parts

/-- Clauses that differ only in their operands are written alike with placeholders, and have as
many parameters. -/
theorem parameterised_eq_of_erased_eq (same : clause.erased = other.erased) (last : Nat) :
    (clause.parameterised last).1 = (other.parameterised last).1 ∧
      (clause.parameterised last).2.length = (other.parameterised last).2.length := by
  constructor
  · have numbered : clause.numberedAfter last = other.numberedAfter last :=
      calc
        clause.numberedAfter last = clause.erased.numberedAfter last :=
          (numberedAfter_map _ clause last).symm
        _ = other.erased.numberedAfter last := by rw [same]
        _ = other.numberedAfter last := numberedAfter_map _ other last
    rw [parameterised, parameterised, numbered]
  · have lengths : clause.operands.length = other.operands.length := by
      have operands := congrArg (fun erased => erased.operands.length) same
      simpa only [erased, operands_map, List.length_map] using operands
    exact lengths

end Sql.Clause

/-! ### Shapes -/

namespace Predicate

/-- Whether two predicates are the same up to the values and texts in them. Null counts as a value
of its own where it makes a comparison a test for null, and lists have to be equally long. -/
inductive SameShape : Predicate → Predicate → Prop
  | always : SameShape .always .always
  | compare {field : String} {relation : Relation} {value other : Value}
      (nulls : relation = .equal ∨ relation = .notEqual → value.isNull = other.isNull) :
      SameShape (.compare field relation value) (.compare field relation other)
  | member {field : String} {values others : List Value}
      (lengths : values.length = others.length) :
      SameShape (.member field values) (.member field others)
  | search {field : String} {occurrence : Occurrence} {text other : String} :
      SameShape (.search field occurrence text) (.search field occurrence other)
  | isNull {field : String} : SameShape (.isNull field) (.isNull field)
  | isNotNull {field : String} : SameShape (.isNotNull field) (.isNotNull field)
  | all {parts others : List Predicate} (shapes : List.Forall₂ SameShape parts others) :
      SameShape (.all parts) (.all others)
  | any {parts others : List Predicate} (shapes : List.Forall₂ SameShape parts others) :
      SameShape (.any parts) (.any others)

theorem erased_comparisonClause {field : String} {relation : Relation} {value other : Value}
    (nulls : relation = .equal ∨ relation = .notEqual → value.isNull = other.isNull) :
    (comparisonClause field relation value).erased =
      (comparisonClause field relation other).erased := by
  unfold comparisonClause
  cases relation with
  | equal =>
      rw [nulls (.inl rfl)]
      cases other.isNull <;> rfl
  | notEqual =>
      rw [nulls (.inr rfl)]
      cases other.isNull <;> rfl
  | _ => rfl

theorem erased_memberClause {field : String} {values others : List Value}
    (lengths : values.length = others.length) :
    (member field values).clause.erased = (member field others).clause.erased := by
  match values, others with
  | [], [] => rfl
  | value :: values, other :: others =>
      have blanks : (value :: values).map (fun _ => ()) = (other :: others).map fun _ => () := by
        rw [List.map_const', List.map_const', lengths]
      exact congrArg (Clause.among field) blanks

private theorem map_erased_clause_eq {parts others : List Predicate}
    (each : ∀ part ∈ parts, ∀ other, part.SameShape other →
      part.clause.erased = other.clause.erased)
    (shapes : List.Forall₂ SameShape parts others) :
    (clauses parts).map Clause.erased = (clauses others).map Clause.erased := by
  induction shapes with
  | nil => rfl
  | cons head _ ih =>
      rw [clauses, clauses, List.map_cons, List.map_cons, each _ (.head _) _ head,
        ih fun part hpart => each part (.tail _ hpart)]

namespace SameShape

variable {predicate other : Predicate}

theorem isAlways_eq (same : predicate.SameShape other) : predicate.isAlways = other.isAlways := by
  cases same <;> rfl

/-- The clauses of predicates of the same shape differ only in their operands. -/
theorem erased_clause_eq (same : predicate.SameShape other) :
    predicate.clause.erased = other.clause.erased := by
  induction predicate using induction generalizing other with
  | compare field relation value =>
      cases same with
      | compare nulls => exact erased_comparisonClause nulls
  | member field values =>
      cases same with
      | member lengths => exact erased_memberClause lengths
  | all parts ih =>
      cases same with
      | all shapes =>
          rw [clause, clause, Clause.erased_all, Clause.erased_all,
            map_erased_clause_eq (fun part hpart _ => ih part hpart) shapes]
  | any parts ih =>
      cases same with
      | any shapes =>
          rw [clause, clause, Clause.erased_any, Clause.erased_any,
            map_erased_clause_eq (fun part hpart _ => ih part hpart) shapes]
  | _ =>
      cases same
      rfl

/-- Predicates of the same shape have the same text, and as many parameters as one another. -/
theorem toSql_eq (same : predicate.SameShape other) (offset : Nat) :
    (predicate.toSql offset).1 = (other.toSql offset).1 ∧
      (predicate.toSql offset).2.length = (other.toSql offset).2.length :=
  Clause.parameterised_eq_of_erased_eq same.erased_clause_eq offset

end SameShape

end Predicate

end RowFilter
