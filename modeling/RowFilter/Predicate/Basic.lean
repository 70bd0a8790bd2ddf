import RowFilter.Filter.Argument
import RowFilter.Relation

/-!
# Predicates

A filter compiled for stores that take structured queries. A predicate is true of everything, tests
one field, or combines predicates. Combining by `allOf` and `anyOf` keeps predicates small: what is
true of everything is dropped, and a single part stands for itself.
-/

namespace RowFilter

open RowFilter.Filter

/-- A condition on a record. -/
inductive Predicate where
  /-- True of everything. -/
  | always
  /-- A comparison of a field. -/
  | compare (field : String) (relation : Relation) (value : Value)
  /-- A field is equal to one of several values. -/
  | member (field : String) (values : List Value)
  /-- A text occurs in a field, in any case. -/
  | search (field : String) (occurrence : Occurrence) (text : String)
  /-- A field is missing or null. -/
  | isNull (field : String)
  /-- A field is present and not null. -/
  | isNotNull (field : String)
  /-- All parts hold. -/
  | all (parts : List Predicate)
  /-- At least one part holds. -/
  | any (parts : List Predicate)
  deriving Inhabited

namespace Predicate

/-- Whether the predicate is the one that is true of everything. -/
def isAlways : Predicate → Bool
  | .always => true
  | _ => false

/-- The field that a predicate tests, if it tests one. -/
def field? : Predicate → Option String
  | .compare field _ _ => some field
  | .member field _ => some field
  | .search field _ _ => some field
  | .isNull field => some field
  | .isNotNull field => some field
  | .always => none
  | .all _ => none
  | .any _ => none

/-- All of some predicates: what is true of everything is dropped, and a single part stands for
itself. -/
def allOf (parts : List Predicate) : Predicate :=
  match parts.filter fun part => !part.isAlways with
  | [] => .always
  | [part] => part
  | parts => .all parts

/-- One of some predicates: always true if a part is, or if there is none; a single part stands for
itself. -/
def anyOf (parts : List Predicate) : Predicate :=
  if parts.any isAlways then .always
  else match parts with
    | [] => .always
    | [part] => part
    | parts => .any parts

end Predicate

end RowFilter
