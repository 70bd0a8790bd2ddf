import RowFilter.Predicate.Basic
import RowFilter.Predicate.Comparison
import RowFilter.Text.Occurrence

/-!
# Deciding predicates on records

A missing column is a null one. A null column satisfies no comparison, whatever it is compared with;
only the tests for null see it.
-/

namespace RowFilter.Predicate

open RowFilter.Filter

/-- The value of a column, unless it is missing or null. -/
def column? (record : Record) (name : String) : Option Json :=
  (record.lookup name).filter fun value => !value.isNull

/-- Whether a text occurs in another in the given way, both in lower case. -/
def occurs (occurrence : Occurrence) (part whole : String) : Bool :=
  let part := Text.lower part.toList
  let whole := Text.lower whole.toList
  match occurrence with
  | .anywhere => Text.occursIn part whole
  | .atStart => Text.startsWith part whole
  | .atEnd => Text.endsWith part whole

/-- Whether the comparison holds of a column, a null value asking for a null column or for one that
is not. -/
def compares (column : Option Json) (relation : Relation) (value : Value) : Bool :=
  match relation, value.isNull with
  | .equal, true => column.isNone
  | .notEqual, true => column.isSome
  | _, _ => (column.bind fun json => Comparison.order? json value).any relation.holds

mutual

/-- Whether a predicate holds of a record. -/
def holds (record : Record) : Predicate → Bool
  | .always => true
  | .compare field relation value => compares (column? record field) relation value
  | .member field values =>
    values.any fun value =>
      ((column? record field).bind fun json => Comparison.order? json value) == some .eq
  | .search field occurrence text =>
    match column? record field with
    | some (.string whole) => occurs occurrence text whole
    | _ => false
  | .isNull field => (column? record field).isNone
  | .isNotNull field => (column? record field).isSome
  | .all parts => allHold record parts
  | .any parts => anyHolds record parts

/-- Whether all predicates hold. -/
def allHold (record : Record) : List Predicate → Bool
  | [] => true
  | part :: rest => holds record part && allHold record rest

/-- Whether one of the predicates holds. -/
def anyHolds (record : Record) : List Predicate → Bool
  | [] => false
  | part :: rest => holds record part || anyHolds record rest

end

end RowFilter.Predicate
