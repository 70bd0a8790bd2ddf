import RowFilter.Predicate.Basic

/-!
# Predicates as where-objects

A predicate as an object that names a field and the tests it must pass, or lists of such objects
under `AND` and `OR`. Tests of one field that must all hold share one object, unless two of them
have the same name or one of them searches without regard to case, which would apply to its
neighbours as well.
-/

namespace RowFilter.Predicate

open RowFilter.Filter

/-- The name of a comparison in a where-object. -/
def relationKey : Relation → String
  | .equal => "equals"
  | .notEqual => "not"
  | .less => "lt"
  | .lessOrEqual => "lte"
  | .greater => "gt"
  | .greaterOrEqual => "gte"

/-- The name of a search in a where-object. -/
def searchKey : Occurrence → String
  | .anywhere => "contains"
  | .atStart => "startsWith"
  | .atEnd => "endsWith"

/-- The name of the member that makes an object's searches blind to case. -/
def modeKey : String := "mode"

/-- The field of a test and its members in a where-object. -/
def fieldTests? : Predicate → Option (String × List (String × Json))
  | .compare field relation value => some (field, [(relationKey relation, value.toJson)])
  | .member field values => some (field, [("in", .array (values.map Value.toJson))])
  | .search field occurrence text =>
    some (field,
      Json.membersOf [(searchKey occurrence, .string text), (modeKey, .string "insensitive")])
  | .isNull field => some (field, [("equals", .null)])
  | .isNotNull field => some (field, [("not", .null)])
  | .always => none
  | .all _ => none
  | .any _ => none

/-- Members together with others, if no name stands in both. -/
def unite? (members : List (String × Json)) : List (String × Json) → Option (List (String × Json))
  | [] => some members
  | (name, value) :: rest =>
    if (members.lookup name).isSome then none
    else unite? (Json.insertMember name value members) rest

/-- The tests of the parts united with those of a field so far, if they all test that field and can
share an object. -/
def shareObject? (field : String) (members : List (String × Json)) :
    List Predicate → Option (String × List (String × Json))
  | [] => some (field, members)
  | part :: rest =>
    match part.fieldTests? with
    | none => none
    | some (other, tests) =>
      if (tests.lookup modeKey).isSome || other ≠ field then none
      else (unite? members tests).bind fun members => shareObject? field members rest

/-- The field and the shared members of parts that must all hold, if they can share an object. -/
def sharedTests? : List Predicate → Option (String × List (String × Json))
  | [] => none
  | part :: rest => part.fieldTests?.bind fun (field, _) => shareObject? field [] (part :: rest)

mutual

/-- The where-object of a predicate. -/
def whereObject : Predicate → Json
  | .all parts =>
    match sharedTests? parts with
    | some (field, tests) => .single field (.object tests)
    | none => .single "AND" (.array (whereObjects parts))
  | .any parts => .single "OR" (.array (whereObjects parts))
  | test =>
    match test.fieldTests? with
    | some (field, tests) => .single field (.object tests)
    | none => .object []

/-- The where-objects of predicates. -/
def whereObjects : List Predicate → List Json
  | [] => []
  | part :: rest => whereObject part :: whereObjects rest

end

end RowFilter.Predicate
