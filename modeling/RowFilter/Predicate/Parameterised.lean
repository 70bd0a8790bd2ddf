import RowFilter.Predicate.Basic
import RowFilter.Sql.Clause

/-!
# Predicates as clauses with parameters

A predicate as the condition of a statement that takes its values as parameters. A comparison with
null becomes a test for null, which needs no parameter; a search becomes a pattern.
-/

namespace RowFilter.Predicate

open RowFilter.Filter RowFilter.Sql

/-- The clause of a comparison. -/
def comparisonClause (field : String) (relation : Relation) (value : Value) : Clause Value :=
  match relation, value.isNull with
  | .equal, true => .isNull field
  | .notEqual, true => .isNotNull field
  | _, _ => .compare field relation value

mutual

/-- The clause of a predicate. -/
def clause : Predicate → Clause Value
  | .always => .always
  | .compare field relation value => comparisonClause field relation value
  | .member field values => if values.isEmpty then .never else .among field values
  | .search field occurrence text => .like field (.text (pattern occurrence text))
  | .isNull field => .isNull field
  | .isNotNull field => .isNotNull field
  | .all parts => .all (clauses parts)
  | .any parts => .any (clauses parts)

/-- The clauses of predicates. -/
def clauses : List Predicate → List (Clause Value)
  | [] => []
  | part :: rest => clause part :: clauses rest

end

/-- The text of a predicate's clause with placeholders numbered after the given number, and the
parameters. -/
def toSql (predicate : Predicate) (offset : Nat) : String × List Value :=
  predicate.clause.parameterised offset

end RowFilter.Predicate
