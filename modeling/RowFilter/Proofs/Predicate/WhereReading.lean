import Mathlib.Data.List.Perm.Basic
import RowFilter.Predicate.Matching
import RowFilter.Proofs.Filter.Meaning

/-!
# Reading where-objects

What a where-object says of a record, read from the document alone. Its members must all hold. The
member `AND` or `OR` with a list is a conjunction or a disjunction of where-objects; every other
member is a field with an object of tests, whatever the name of the field. The tests of one object
must all be passed, and the member `mode` makes every comparison of texts in its object blind to
case.
-/

namespace RowFilter.WhereObject

open RowFilter.Predicate

/-- What a member of an object of tests asks for. -/
inductive Clause where
  | compare (relation : Relation)
  | member
  | search (occurrence : Occurrence)
  | mode
  deriving DecidableEq, Repr

/-- The clauses by name. -/
def clauses : List (String × Clause) :=
  [("equals", .compare .equal), ("not", .compare .notEqual), ("lt", .compare .less),
   ("lte", .compare .lessOrEqual), ("gt", .compare .greater), ("gte", .compare .greaterOrEqual),
   ("in", .member), ("contains", .search .anywhere), ("startsWith", .search .atStart),
   ("endsWith", .search .atEnd), ("mode", .mode)]

/-- A text as comparisons see it: in lower case if they are blind to case. -/
def folded (insensitive : Bool) (text : String) : String :=
  if insensitive then Text.lowercase text else text

/-- The order of a column's value and an argument, if they compare. -/
def order? (insensitive : Bool) : Json → Json → Option Ordering
  | .number m, .number n => m.toDouble.compare? n.toDouble
  | .boolean a, .boolean b => some (Comparison.orderOfBooleans a b)
  | .string a, .string b =>
    some (Comparison.orderOfTexts (folded insensitive a) (folded insensitive b))
  | _, _ => none

/-- Whether a column passes a test. The argument null asks whether the column is null, or is not. -/
def passes (insensitive : Bool) (column : Option Json) : Option Clause → Json → Bool
  | some (.compare .equal), .null => column.isNone
  | some (.compare .notEqual), .null => column.isSome
  | some (.compare relation), argument =>
    (column.bind fun json => order? insensitive json argument).any relation.holds
  | some .member, .array items =>
    items.any fun item => (column.bind fun json => order? insensitive json item) == some .eq
  | some (.search occurrence), .string part =>
    match column with
    | some (.string whole) =>
      occurrence.relates (folded insensitive part).toList (folded insensitive whole).toList
    | _ => false
  | some .mode, _ => true
  | _, _ => false

/-- Whether a member makes the comparisons of its object blind to case. -/
def blinds : String × Json → Bool
  | (name, .string text) => name == "mode" && text == "insensitive"
  | _ => false

/-- Whether a column passes all tests of an object. -/
def passesTests (column : Option Json) (tests : List (String × Json)) : Bool :=
  tests.all fun test => passes (tests.any blinds) column (clauses.lookup test.1) test.2

mutual

/-- Whether a where-object selects a record. -/
def selects (record : Record) : Json → Bool
  | .object members => selectsMembers record members
  | _ => false

/-- Whether every member of a where-object selects a record. -/
def selectsMembers (record : Record) : List (String × Json) → Bool
  | [] => true
  | (name, value) :: rest => selectsMember record name value && selectsMembers record rest

/-- Whether a member of a where-object selects a record. -/
def selectsMember (record : Record) (name : String) : Json → Bool
  | .array items =>
    if name = "AND" then allSelect record items
    else if name = "OR" then anySelects record items
    else false
  | .object tests => passesTests (record.value? name) tests
  | _ => false

/-- Whether all where-objects select a record. -/
def allSelect (record : Record) : List Json → Bool
  | [] => true
  | item :: rest => selects record item && allSelect record rest

/-- Whether one of the where-objects selects a record. -/
def anySelects (record : Record) : List Json → Bool
  | [] => false
  | item :: rest => selects record item || anySelects record rest

end

theorem passes_compare {argument : Json} (notNull : argument ≠ .null) (insensitive : Bool)
    (column : Option Json) (relation : Relation) :
    passes insensitive column (some (.compare relation)) argument =
      (column.bind fun json => order? insensitive json argument).any relation.holds := by
  cases argument with
  | null => exact absurd rfl notNull
  | _ => cases relation <;> rfl

theorem passes_search (record : Record) (field : String) (occurrence : Occurrence)
    (part : String) :
    passes true (record.value? field) (some (.search occurrence)) (.string part) =
      (search field occurrence part).holds record := by
  rw [holds, column?_eq_value?]
  cases record.value? field with
  | none => rfl
  | some json =>
      cases json with
      | string whole =>
          show occurrence.relates (Text.lowercase part).toList (Text.lowercase whole).toList =
            occurs occurrence part whole
          simp only [occurs_eq, Text.lowercase, String.toList_ofList]
      | _ => rfl

variable {record : Record}

theorem allSelect_iff (items : List Json) :
    allSelect record items = true ↔ ∀ item ∈ items, selects record item = true := by
  induction items with
  | nil => simp [allSelect]
  | cons item rest ih => rw [allSelect, Bool.and_eq_true, ih, List.forall_mem_cons]

theorem anySelects_iff (items : List Json) :
    anySelects record items = true ↔ ∃ item ∈ items, selects record item = true := by
  induction items with
  | nil => simp [anySelects]
  | cons item rest ih => rw [anySelects, Bool.or_eq_true, ih, List.exists_mem_cons_iff]

theorem selects_single (name : String) (value : Json) :
    selects record (.single name value) = selectsMember record name value := by
  rw [Json.single, selects, selectsMembers, selectsMembers, Bool.and_true]

theorem selects_and_iff (items : List Json) :
    selects record (.single "AND" (.array items)) = true ↔
      ∀ item ∈ items, selects record item = true := by
  rw [selects_single, selectsMember, if_pos rfl, allSelect_iff]

theorem selects_or_iff (items : List Json) :
    selects record (.single "OR" (.array items)) = true ↔
      ∃ item ∈ items, selects record item = true := by
  rw [selects_single, selectsMember, if_neg (by decide), if_pos rfl, anySelects_iff]

/-- An object of tests belongs to the field of its name, even to one that is called `AND`. -/
theorem selects_tests (field : String) (tests : List (String × Json)) :
    selects record (.single field (.object tests)) =
      passesTests (record.value? field) tests := by
  rw [selects_single, selectsMember]

/-- The order in which an object holds its tests does not matter. -/
theorem passesTests_perm {tests others : List (String × Json)} (same : tests.Perm others)
    (column : Option Json) : passesTests column tests = passesTests column others := by
  rw [passesTests, passesTests, same.any_eq, same.all_eq]

/-- Tests of which none makes its object blind to case are passed together exactly if they are
passed in the objects that they come from. -/
theorem passesTests_flatten {objects : List (List (String × Json))}
    (sensitive : ∀ tests ∈ objects, tests.any blinds = false) (column : Option Json) :
    passesTests column objects.flatten = true ↔
      ∀ tests ∈ objects, passesTests column tests = true := by
  have together : objects.flatten.any blinds = false := by
    rw [List.any_eq_false]
    intro test member
    obtain ⟨tests, listed, inTests⟩ := List.mem_flatten.mp member
    exact List.any_eq_false.mp (sensitive tests listed) test inTests
  rw [passesTests, together, List.all_eq_true, List.forall_mem_flatten]
  apply forall₂_congr
  intro tests listed
  rw [passesTests, sensitive tests listed, List.all_eq_true]

-- In one object with a search that is blind to case, a test for equality is blind to it as well.
example : passesTests (some (.string "Jo")) [("equals", .string "JO")] = false ∧
    passesTests (some (.string "Jo"))
      [("contains", .string "j"), ("equals", .string "JO"), ("mode", .string "insensitive")] =
        true := by
  decide +kernel

end RowFilter.WhereObject
