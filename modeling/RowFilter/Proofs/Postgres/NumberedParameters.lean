import RowFilter.Proofs.Postgres.Binding
import RowFilter.Proofs.Predicate.Leaves
import RowFilter.Proofs.Predicate.Parameterised
import RowFilter.Proofs.Sql.Numbering

/-!
# Numbered parameters

A statement of a structured query has a placeholder for every parameter, numbered from left to
right, and the parameter of a number is what the test in which the placeholder stands compares its
column with. Tests for null and empty lists take no parameter. The number from which the
placeholders are counted changes the text and not the parameters. So a server that names one type
for each placeholder names as many types as there are values to bind.
-/

namespace RowFilter

open RowFilter.Filter RowFilter.Sql

/-! ### Tests of predicates and tests in their text -/

namespace Predicate

/-- The test of a column that is written for a test of a field. Asking for null, or for a value
other than null, is a test for null; an empty list leaves no test. -/
def writtenTest? : Predicate → Option (Clause Value)
  | .compare field .equal .null => some (.isNull field)
  | .compare field .notEqual .null => some (.isNotNull field)
  | .compare field relation value => some (.compare field relation value)
  | .member _ [] => none
  | .member field values => some (.among field values)
  | .search field occurrence text => some (.like field (.text (pattern occurrence text)))
  | .isNull field => some (.isNull field)
  | .isNotNull field => some (.isNotNull field)
  | _ => none

/-- The clause of a predicate has the tests that are written for those of the predicate, in the
same order. -/
theorem tests_clause (predicate : Predicate) :
    predicate.clause.tests = predicate.leaves.filterMap writtenTest? := by
  induction predicate using induction with
  | always => rfl
  | compare field relation value => cases relation <;> cases value <;> rfl
  | member field values => cases values <;> rfl
  | search field occurrence text => rfl
  | isNull field => rfl
  | isNotNull field => rfl
  | all parts ih =>
      rw [clause, clauses_eq_map, Clause.tests_all, List.flatMap_map, leaves_all,
        List.filterMap_flatMap]
      exact List.flatMap_congr ih
  | any parts ih =>
      rw [clause, clauses_eq_map, Clause.tests_any, List.flatMap_map, leaves_any,
        List.filterMap_flatMap]
      exact List.flatMap_congr ih

/-- The numbered tokens of a predicate are read as a condition. With the parameters put back for
the placeholders, its tests are those written for the predicate. -/
theorem readTokens_numberedTokens (predicate : Predicate) (offset : Nat) :
    ∃ condition, readTokens (predicate.clause.numberedTokens offset) = some condition ∧
      condition.tests.map (Clause.map (parameterValue offset predicate.clause.operands)) =
        predicate.leaves.filterMap writtenTest? := by
  let numbered := predicate.clause.numberedAfter offset
  let value := parameterValue offset predicate.clause.operands
  have read : readTokens (numbered.tokens fun number => [.placeholder number]) =
      some (numbered.map Operand.placeholder).readBack :=
    readTokens_tokens numbered (predicate.clause_listsNonempty.numberedAfter offset)
      fun number _ => ⟨.placeholder number, rfl, rfl⟩
  refine ⟨_, read, ?_⟩
  calc
    (numbered.map Operand.placeholder).readBack.tests.map (Clause.map value)
        = (numbered.map (value ∘ Operand.placeholder)).tests := by
          rw [Clause.tests_readBack, ← Clause.tests_map, Clause.map_map]
    _ = predicate.clause.tests := by
          rw [Clause.map_numberedAfter predicate.clause
            (numbersStandFor_parameterValue offset predicate.clause.operands)]
    _ = predicate.leaves.filterMap writtenTest? := predicate.tests_clause

end Predicate

/-! ### Statements -/

namespace Postgres

/-- The tokens of the columns that a statement selects. -/
def selectedTokens (projection : List String) : List Token :=
  if projection.isEmpty then [.symbol .star]
  else separated [.symbol .comma] (projection.map fun name => [.identifier name])

/-- The tokens of the statement of a structured query. -/
def selectTokens (entity : String) (predicate : Predicate) (projection : List String) :
    List Token :=
  .keyword .select :: selectedTokens projection ++ .keyword .fromTable :: .identifier entity ::
    if predicate.isAlways then []
    else .keyword .whereClause :: predicate.clause.numberedTokens 0

theorem spells_selectedColumns (projection : List String) :
    Spells (selectedColumns projection).toList (selectedTokens projection) := by
  unfold selectedColumns selectedTokens
  split
  · exact spells_symbol .star
  · exact spells_joined (fun first later => first.listed later) fun name _ => spells_identifier name

/-- The statement of a structured query spells its tokens. -/
theorem spells_select (entity : String) (predicate : Predicate) (projection : List String) :
    Spells (select entity predicate projection).1.toList
      (selectTokens entity predicate projection) := by
  have opening : ∀ {text : List Char} {tokens : List Token}, Spells text tokens →
      Spells ("SELECT ".toList ++ ((selectedColumns projection).toList ++
          (" FROM ".toList ++ text)))
        (.keyword .select :: selectedTokens projection ++ .keyword .fromTable :: tokens) :=
    fun later => (spells_keyword .select).spaced
      ((spells_selectedColumns projection).spaced ((spells_keyword .fromTable).spaced later))
  unfold select selectTokens
  dsimp only
  split
  · simp only [String.toList_append, List.append_assoc]
    exact opening (spells_identifier entity)
  · have condition := predicate.clause.spells_parameterised 0
    simp only [String.toList_append, List.append_assoc]
    exact opening ((spells_identifier entity).spaced
      ((spells_keyword .whereClause).spaced condition))

theorem placeholders_selectedTokens (projection : List String) :
    placeholders (selectedTokens projection) = [] := by
  unfold selectedTokens
  split
  · rfl
  · rw [placeholders_separated rfl, List.flatMap_map, List.flatMap_eq_nil_iff]
    exact fun _ _ => rfl

/-- The placeholders of a statement are numbered from one on, one for each parameter. -/
theorem placeholders_selectTokens (entity : String) (predicate : Predicate)
    (projection : List String) :
    placeholders (selectTokens entity predicate projection) =
      List.range' 1 (select entity predicate projection).2.length := by
  rw [selectTokens, placeholders_append, placeholders_cons_of_none rfl,
    placeholders_selectedTokens, placeholders_cons_of_none rfl, placeholders_cons_of_none rfl,
    List.nil_append, select_values]
  split
  · rename_i always
    cases predicate with
    | always => rfl
    | _ => cases always
  · rw [placeholders_cons_of_none rfl, Clause.placeholders_numberedTokens]

/-- The placeholders of a predicate's text are the numbers after the given one, one for each
parameter, from left to right. Read as a condition, the text has the tests of the predicate, with
the placeholder of each parameter in the test that the parameter belongs to. The parameters are the
same from whatever number they are counted, and they are those of the predicate's statement, whose
placeholders are numbered from one. So values and types are never found to be of different number
when there is a type for each placeholder: the values are bound one by one. -/
theorem parameters_numbered (predicate : Predicate) (offset : Nat) :
    (∃ read condition, tokens? (predicate.toSql offset).1 = some read ∧
      placeholders read = List.range' (offset + 1) (predicate.toSql offset).2.length ∧
      readTokens read = some condition ∧
      condition.tests.map
          (Clause.map (Predicate.parameterValue offset (predicate.toSql offset).2)) =
        predicate.leaves.filterMap Predicate.writtenTest?) ∧
    (predicate.toSql offset).2 = (predicate.toSql 0).2 ∧
    ∀ entity projection,
      (select entity predicate projection).2 = (predicate.toSql 0).2 ∧
      ∃ read, tokens? (select entity predicate projection).1 = some read ∧
        placeholders read = List.range' 1 (select entity predicate projection).2.length ∧
        ∀ types : List ColumnType, types.length = (placeholders read).length →
          Parameter.bindAll (select entity predicate projection).2 types =
            Parameter.bindEach ((select entity predicate projection).2.zip types) := by
  refine ⟨?_, rfl, fun entity projection => ⟨select_values entity predicate projection, ?_⟩⟩
  · obtain ⟨condition, read, tests⟩ := predicate.readTokens_numberedTokens offset
    exact ⟨_, condition, (predicate.clause.spells_parameterised offset).tokens?,
      predicate.clause.placeholders_numberedTokens offset, read, tests⟩
  · have numbers := placeholders_selectTokens entity predicate projection
    refine ⟨_, (spells_select entity predicate projection).tokens?, numbers, fun types each => ?_⟩
    rw [numbers, List.length_range'] at each
    rw [Parameter.bindAll, if_pos each.symm]

/-- A column and a text that look like placeholders, tests for null, an empty list and a list with
null in it. -/
def sampleNumbering : Predicate :=
  .all [.any [.compare "paid $1" .equal .null, .member "role" [.text "$2", .null]],
    .member "role" [], .compare "age" .greater (.integer 30), .search "email" .atStart "50%"]

/-- The four parameters of the sample are bound one by one to the types of four placeholders. -/
theorem sample_four_parameters :
    (sampleNumbering.toSql 7).1 =
      "((\"paid $1\" IS NULL OR \"role\" IN ($8, $9)) AND FALSE AND \"age\" > $10 AND " ++
        "\"email\" ILIKE $11)" ∧
      ∃ read, tokens? (select "users" sampleNumbering ["paid $1"]).1 = some read ∧
        placeholders read = [1, 2, 3, 4] ∧
        Parameter.bindAll (select "users" sampleNumbering ["paid $1"]).2
            [.enumeration "role", .enumeration "role", .integer .four, .text .text] =
          Parameter.bindEach ((select "users" sampleNumbering ["paid $1"]).2.zip
            [.enumeration "role", .enumeration "role", .integer .four, .text .text]) := by
  obtain ⟨_, _, statements⟩ := parameters_numbered sampleNumbering 7
  obtain ⟨_, read, spelled, numbers, bound⟩ := statements "users" ["paid $1"]
  refine ⟨by decide +kernel, read, spelled, numbers, bound _ ?_⟩
  rw [numbers]
  rfl

end Postgres

end RowFilter
