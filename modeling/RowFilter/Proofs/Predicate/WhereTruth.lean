import RowFilter.Proofs.Predicate.Leaves
import RowFilter.Proofs.Predicate.WhereReading
import RowFilter.Proofs.Predicate.WhereSharing
import RowFilter.Proofs.Validation.Arguments
import RowFilter.Users

/-!
# Where-objects select what predicates hold of

Written as a where-object and read again, the predicate of a valid filter selects the records that
it holds of. The values of its tests are of the types of fields, so a document keeps them as they
are; and tests that share an object are passed together as they are apart.
-/

namespace RowFilter.Filter.Value

open RowFilter.Schema

/-- Whether a document shows the value as it is: not as null, and as what compares alike. -/
structure IsShown (value : Value) : Prop where
  notNull : value.isNull = false
  document : value.toJson ≠ .null
  order?_eq : ∀ json, WhereObject.order? false json value.toJson = Comparison.order? json value

private theorem isFinite_of_accepts {type : FieldType} {x : Number.Double}
    (accepted : type.accepts (.double x) = true) : x.isFinite = true := by
  cases type <;> simp_all [FieldType.accepts, text?, finite?]

/-- A value of a field's type is shown as it is. -/
theorem isShown_of_accepts {type : FieldType} {value : Value}
    (accepted : type.accepts value = true) : value.IsShown := by
  have scalar := Validation.isScalar_of_accepts accepted
  cases value with
  | null => simp [isScalar] at scalar
  | list items => simp [isScalar] at scalar
  | document json => simp [isScalar] at scalar
  | double x =>
      have finite := isFinite_of_accepts accepted
      have shown : (double x).toJson = .number (.double x) := by
        rw [toJson, Json.ofDouble, if_pos finite]
      have valued : (double x).finite? = some x := if_pos finite
      refine ⟨rfl, by simp [shown], ?_⟩
      intro json
      rw [shown]
      cases json with
      | number n => rw [Comparison.order?, valued]; rfl
      | _ => rfl
  | _ =>
      refine ⟨rfl, by simp [toJson, Json.ofInt], ?_⟩
      intro json
      cases json <;> rfl

end RowFilter.Filter.Value

namespace RowFilter.Predicate

open RowFilter.Filter RowFilter.Schema RowFilter.WhereObject

theorem lookup_relationKey (relation : Relation) :
    WhereObject.clauses.lookup (relationKey relation) = some (.compare relation) := by
  cases relation <;> rfl

theorem lookup_searchKey (occurrence : Occurrence) :
    WhereObject.clauses.lookup (searchKey occurrence) = some (.search occurrence) := by
  cases occurrence <;> rfl

theorem blinds_of_ne {name : String} (different : name ≠ modeKey) (value : Json) :
    blinds (name, value) = false := by
  cases value <;> simp_all [blinds, modeKey]

theorem passesTests_singleton {name : String} (different : name ≠ modeKey) (value : Json)
    (column : Option Json) :
    passesTests column [(name, value)] =
      passes false column (WhereObject.clauses.lookup name) value := by
  simp [passesTests, blinds_of_ne different]

/-- A search is written beside the member that makes it blind to case. -/
theorem passesTests_search (occurrence : Occurrence) (text : String) (column : Option Json) :
    passesTests column (Json.membersOf
      [(searchKey occurrence, .string text), (modeKey, .string "insensitive")]) =
      passes true column (some (.search occurrence)) (.string text) := by
  have fresh : List.lookup modeKey [(searchKey occurrence, Json.string text)] = none := by
    cases occurrence <;> rfl
  have listed : (Json.membersOf
      [(searchKey occurrence, .string text), (modeKey, .string "insensitive")]).Perm
        [(modeKey, .string "insensitive"), (searchKey occurrence, .string text)] :=
    Json.insertMember_perm fresh (.string "insensitive")
  have insensitive : blinds (modeKey, .string "insensitive") = true := by decide
  have mode : WhereObject.clauses.lookup modeKey = some .mode := by decide
  rw [passesTests_perm listed, passesTests, List.any_cons, insensitive, Bool.true_or,
    List.all_cons, List.all_cons, List.all_nil, mode, lookup_searchKey, Bool.and_true]
  rfl

/-- A field passes the tests of a test's object exactly if the test holds. -/
theorem passesTests_fieldTests {test : Predicate} {field : String} {tests : List (String × Json)}
    (of_test : test.fieldTests? = some (field, tests))
    (shown : ∀ value ∈ test.comparedValues, value.IsShown) (record : Record) :
    passesTests (record.value? field) tests = test.holds record := by
  rw [← column?_eq_value?]
  cases test with
  | always => simp [fieldTests?] at of_test
  | all parts => simp [fieldTests?] at of_test
  | any parts => simp [fieldTests?] at of_test
  | compare tested relation value =>
      obtain ⟨rfl, rfl⟩ := Prod.mk.inj (Option.some.inj of_test)
      have proper := shown value (List.mem_singleton_self _)
      rw [passesTests_singleton (by cases relation <;> decide), lookup_relationKey, holds,
        compares_of_notNull proper.notNull, passes_compare proper.document]
      simp only [proper.order?_eq]
  | member tested values =>
      obtain ⟨rfl, rfl⟩ := Prod.mk.inj (Option.some.inj of_test)
      rw [passesTests_singleton (by decide), holds]
      show ((values.map Value.toJson).any fun item => ((column? record tested).bind fun json =>
        WhereObject.order? false json item) == some .eq) = _
      rw [List.any_map, Bool.eq_iff_iff, List.any_eq_true, List.any_eq_true]
      apply exists_congr
      intro value
      apply and_congr_right
      intro member
      simp only [Function.comp_apply, (shown value member).order?_eq]
  | search tested occurrence text =>
      obtain ⟨rfl, rfl⟩ := Prod.mk.inj (Option.some.inj of_test)
      rw [passesTests_search, column?_eq_value?, passes_search]
  | isNull tested =>
      obtain ⟨rfl, rfl⟩ := Prod.mk.inj (Option.some.inj of_test)
      rw [passesTests_singleton (by decide), holds]
      rfl
  | isNotNull tested =>
      obtain ⟨rfl, rfl⟩ := Prod.mk.inj (Option.some.inj of_test)
      rw [passesTests_singleton (by decide), holds]
      rfl

theorem field?_of_fieldTests? {test : Predicate} {field : String} {tests : List (String × Json)}
    (of_test : test.fieldTests? = some (field, tests)) : test.field? = some field := by
  cases test <;> simp_all [fieldTests?, field?]

theorem whereObject_of_fieldTests? {test : Predicate} {field : String}
    {tests : List (String × Json)} (of_test : test.fieldTests? = some (field, tests)) :
    test.whereObject = .single field (.object tests) := by
  cases test with
  | always => simp [fieldTests?] at of_test
  | all parts => simp [fieldTests?] at of_test
  | any parts => simp [fieldTests?] at of_test
  | _ => simp [whereObject, of_test]

theorem whereObjects_eq_map (parts : List Predicate) :
    whereObjects parts = parts.map whereObject := by
  induction parts with
  | nil => rfl
  | cons part rest ih => rw [whereObjects, ih, List.map_cons]

theorem any_blinds_of_lookup {tests : List (String × Json)}
    (absent : tests.lookup modeKey = none) : tests.any blinds = false := by
  rw [List.any_eq_false]
  intro test member
  have different := List.lookup_eq_none_iff.mp absent test member
  rw [blinds_of_ne (by rintro same; simp [same] at different)]
  exact Bool.false_ne_true

section Selecting

variable (record : Record)

theorem selects_fieldTests {test : Predicate} {field : String} {tests : List (String × Json)}
    (of_test : test.fieldTests? = some (field, tests))
    (shown : ∀ leaf ∈ test.leaves, ∀ value ∈ leaf.comparedValues, value.IsShown) :
    selects record test.whereObject = test.holds record := by
  rw [leaves_of_field? (field?_of_fieldTests? of_test), List.forall_mem_singleton] at shown
  rw [whereObject_of_fieldTests? of_test, selects_tests, passesTests_fieldTests of_test shown]

/-- The object that parts share selects what all their own objects select. -/
theorem Shares.selects_iff {parts : List Predicate} {field : String}
    {tests : List (String × Json)} (shares : Shares parts field tests) :
    selects record (.single field (.object tests)) = true ↔
      ∀ part ∈ parts, selects record part.whereObject = true := by
  obtain ⟨objects, same, each, modes⟩ := shares.kept
  rw [selects_tests, passesTests_perm same,
    passesTests_flatten fun tests member => any_blinds_of_lookup (modes tests member)]
  clear shares same modes
  induction each with
  | nil => simp
  | cons of_part _ ih =>
      rw [List.forall_mem_cons, List.forall_mem_cons, ih, whereObject_of_fieldTests? of_part,
        selects_tests]

/-- Whether its parts share an object or not, a conjunction selects what all its parts select. -/
theorem selects_all_iff (parts : List Predicate) :
    selects record (all parts).whereObject = true ↔
      ∀ part ∈ parts, selects record part.whereObject = true := by
  rw [whereObject]
  cases shared : sharedTests? parts with
  | none => rw [selects_and_iff, whereObjects_eq_map, List.forall_mem_map]
  | some object => exact (shares_of_sharedTests? shared).selects_iff record

theorem selects_any_iff (parts : List Predicate) :
    selects record (any parts).whereObject = true ↔
      ∃ part ∈ parts, selects record part.whereObject = true := by
  rw [whereObject, selects_or_iff, whereObjects_eq_map]
  simp only [List.mem_map, exists_exists_and_eq_and]

/-- The where-object of a predicate whose values are shown as they are selects what the predicate
holds of. -/
theorem selects_whereObject {predicate : Predicate}
    (shown : ∀ test ∈ predicate.leaves, ∀ value ∈ test.comparedValues, value.IsShown) :
    selects record predicate.whereObject = predicate.holds record := by
  induction predicate using induction with
  | always =>
      have empty : always.whereObject = .object [] := by simp [whereObject, fieldTests?]
      rw [empty, holds]
      rfl
  | all parts ih =>
      rw [leaves_all, List.forall_mem_flatMap] at shown
      rw [Bool.eq_iff_iff, selects_all_iff, holds_all_iff]
      apply forall₂_congr
      intro part member
      rw [ih part member (shown part member)]
  | any parts ih =>
      rw [leaves_any, List.forall_mem_flatMap] at shown
      rw [Bool.eq_iff_iff, selects_any_iff, holds_any_iff]
      apply exists_congr
      intro part
      apply and_congr_right
      intro member
      rw [ih part member (shown part member)]
  | _ => exact selects_fieldTests record rfl shown

end Selecting

/-- Every value in the predicate of a filter without problems is shown as it is. -/
theorem isShown_of_issues {registry : Registry} {filter : Group} {predicate : Predicate}
    (clean : Validation.issues registry filter = [])
    (compiled : ofFilter filter = .ok predicate) :
    ∀ test ∈ predicate.leaves, ∀ value ∈ test.comparedValues, value.IsShown := by
  intro test inPredicate value compared
  obtain ⟨condition, inFilter, tested, of_condition, inTested⟩ :=
    mem_leaves_ofFilter compiled test inPredicate
  rw [Validation.issues_eq_flatMap, List.flatMap_eq_nil_iff] at clean
  obtain ⟨field, found, _⟩ := Validation.filterable_of_conditionIssues (clean condition inFilter)
  have typed := Validation.accepts_of_mem_values found (clean condition inFilter) value
    (comparedValues_subset_values of_condition test inTested compared)
  exact Value.isShown_of_accepts typed

/-- The predicate of a filter without problems, written as a where-object and read again, selects
the records that it holds of. Parts of any predicate that share an object keep all their tests in
it, and are selected together as they are apart. -/
theorem whereObject_selects_iff_holds {registry : Registry} {filter : Group}
    {predicate : Predicate} (clean : Validation.issues registry filter = [])
    (compiled : ofFilter filter = .ok predicate) :
    (∀ record, selects record predicate.whereObject = true ↔ predicate.holds record = true) ∧
    ∀ parts field tests, sharedTests? parts = some (field, tests) →
      Shares parts field tests ∧
      ∀ record, selects record (.single field (.object tests)) = true ↔
        ∀ part ∈ parts, selects record part.whereObject = true := by
  constructor
  · intro record
    rw [selects_whereObject record (isShown_of_issues clean compiled)]
  · intro parts field tests shared
    have shares := shares_of_sharedTests? shared
    exact ⟨shares, fun record => shares.selects_iff record⟩

/-- Users over 27 and not 32 who are administrators or have a name with `JOHN` in it. -/
def sampleNames : Group where
  all := some [.condition ⟨"age", .gt, some (.integer 27)⟩,
    .condition ⟨"age", .neq, some (.integer 32)⟩]
  any := some [.condition ⟨"name", .contains, some (.text "JOHN")⟩,
    .condition ⟨"role", .member, some (.list [.text "admin"])⟩]

/-- The tests of the age share an object; the document selects the first, the second and the last
user. -/
theorem sample_names_selected : Validation.issues Users.registry sampleNames = [] ∧
    ∃ predicate, ofFilter sampleNames = .ok predicate ∧
      (Users.rows.map fun row => selects row predicate.whereObject) =
        [true, true, false, false, true] ∧
      (∀ record, selects record predicate.whereObject = true ↔ predicate.holds record = true) ∧
      Shares [.compare "age" .greater (.integer 27), .compare "age" .notEqual (.integer 32)]
        "age" [("gt", .ofInt 27), ("not", .ofInt 32)] := by
  have clean : Validation.issues Users.registry sampleNames = [] := by decide +kernel
  obtain ⟨truth, sharing⟩ := whereObject_selects_iff_holds clean rfl
  exact ⟨clean, _, rfl, by decide +kernel, truth, (sharing _ _ _ rfl).1⟩

end RowFilter.Predicate
