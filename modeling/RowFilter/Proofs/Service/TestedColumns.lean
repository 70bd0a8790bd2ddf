import RowFilter.Proofs.Service.HiddenColumns
import RowFilter.Proofs.Sql.StatementText
import RowFilter.Proofs.Validation.Acceptance
import RowFilter.Users

/-!
# Columns that queries test

Only validation knows which fields may stand in a filter and by which operators; the two compilers
take any condition. Still a query that a service compiles tests no other columns than the schema
lets stand in a filter, each by an operator that its field allows. Every test in a predicate, and
every test in the condition that the text of a statement is read as, is asked for by a condition of
the filter, and validation has seen every condition, whatever the compilers drop later.
-/

namespace RowFilter

open RowFilter.Filter RowFilter.Schema

namespace Filter.OperatorKind

/-- Whether an operator of the kind asks for a test in a predicate. A range asks for two
comparisons. -/
def AsksFor : OperatorKind → Predicate → Prop
  | .comparison relation, .compare _ other _ => other = relation
  | .member, .member _ _ => True
  | .between, .compare _ relation _ => relation = .greaterOrEqual ∨ relation = .lessOrEqual
  | .search occurrence, .search _ other _ => other = occurrence
  | .isNull, .isNull _ => True
  | .isNotNull, .isNotNull _ => True
  | _, _ => False

/-- Whether an operator of the kind asks for a test in a statement. The pattern of a search is that
of a text which is looked for in the operator's way. -/
def AsksForClause : OperatorKind → Sql.Clause Sql.Operand → Prop
  | .comparison relation, .compare _ other _ => other = relation
  | .member, .among _ _ => True
  | .between, .between _ _ _ => True
  | .search occurrence, .like _ operand => ∃ text, operand = .text (Sql.pattern occurrence text)
  | .isNull, .isNull _ => True
  | .isNotNull, .isNotNull _ => True
  | _, _ => False

end Filter.OperatorKind

/-! ### Tests of a condition -/

/-- Every test of a condition's predicate is one that its operator asks for. -/
theorem Predicate.asksFor_of_mem_leaves_ofCondition {condition : Condition} {predicate : Predicate}
    (compiled : ofCondition condition = .ok predicate) :
    ∀ test ∈ predicate.leaves, condition.operator.kind.AsksFor test := by
  rw [ofCondition_eq] at compiled
  cases kind : condition.operator.kind with
  | between =>
      simp only [kind, map_eq_ok_iff] at compiled
      obtain ⟨⟨low, high⟩, _, rfl⟩ := compiled
      rw [leaves_all, List.flatMap_cons, List.flatMap_singleton, leaves_of_field? rfl,
        leaves_of_field? rfl]
      simp [OperatorKind.AsksFor]
  | isNull =>
      simp only [kind, Except.ok.injEq] at compiled
      rw [← compiled, leaves_of_field? rfl]
      simp [OperatorKind.AsksFor]
  | isNotNull =>
      simp only [kind, Except.ok.injEq] at compiled
      rw [← compiled, leaves_of_field? rfl]
      simp [OperatorKind.AsksFor]
  | _ =>
      simp only [kind, map_eq_ok_iff] at compiled
      obtain ⟨_, _, rfl⟩ := compiled
      rw [leaves_of_field? rfl]
      simp [OperatorKind.AsksFor]

namespace Sql

/-- Whether every test of a clause is asked for by one of some conditions. -/
def AskedFor (conditions : List Condition) (clause : Clause Operand) : Prop :=
  ∀ test ∈ clause.tests, ∃ condition ∈ conditions,
    test.columns = [condition.field] ∧ condition.operator.kind.AsksForClause test

/-- Every test of a condition's clause is one that its operator asks for. -/
theorem askedFor_of_renderedTest {conditions : List Condition} {condition : Condition}
    (member : condition ∈ conditions) {field : Field} {clause : Clause Rendered}
    (compiled : renderedTest field condition = .ok clause) :
    AskedFor conditions (clause.map Rendered.operand) := by
  have single : ∀ {test : Clause Operand}, test.columns = [condition.field] →
      condition.operator.kind.AsksForClause test →
      ∀ other ∈ [test], ∃ condition ∈ conditions,
        other.columns = [condition.field] ∧ condition.operator.kind.AsksForClause other := by
    intro test column asks other hother
    obtain rfl := List.mem_singleton.mp hother
    exact ⟨condition, member, column, asks⟩
  rw [renderedTest] at compiled
  cases kind : condition.operator.kind with
  | comparison relation =>
      simp only [kind, bind_eq_ok_iff] at compiled
      obtain ⟨_, _, operand, _, same⟩ := compiled
      obtain rfl := Except.ok.inj same
      exact single rfl (by rw [kind]; rfl)
  | member =>
      simp only [kind, bind_eq_ok_iff] at compiled
      obtain ⟨_, _, operands, _, same⟩ := compiled
      cases operands with
      | nil =>
          obtain rfl := Except.ok.inj same
          exact fun test htest => by cases htest
      | cons first rest =>
          obtain rfl := Except.ok.inj same
          exact single rfl (by rw [kind]; trivial)
  | between =>
      simp only [kind, bind_eq_ok_iff] at compiled
      obtain ⟨_, _, _, _, _, _, same⟩ := compiled
      obtain rfl := Except.ok.inj same
      exact single rfl (by rw [kind]; trivial)
  | search occurrence =>
      simp only [kind, bind_eq_ok_iff] at compiled
      obtain ⟨value, _, same⟩ := compiled
      obtain rfl := Except.ok.inj same
      exact single rfl (by rw [kind]; exact ⟨value.display, rfl⟩)
  | isNull =>
      simp only [kind, Except.ok.injEq] at compiled
      rw [← compiled]
      exact single rfl (by rw [kind]; trivial)
  | isNotNull =>
      simp only [kind, Except.ok.injEq] at compiled
      rw [← compiled]
      exact single rfl (by rw [kind]; trivial)

/-! ### Tests of a filter -/

/-- Every test of a filter's clause is asked for by a condition of the filter. -/
theorem askedFor_of_renderedClause {registry : Registry} {filter : Group}
    {clause : Option (Clause Rendered)} (compiled : renderedClause registry filter = .ok clause) :
    ∀ condition ∈ clause, AskedFor filter.conditions (condition.map Rendered.operand) := by
  intro whole hwhole test htest
  rw [Clause.tests_map, List.mem_map] at htest
  obtain ⟨source, hsource, rfl⟩ := htest
  obtain ⟨condition, member, part, hpart, inPart⟩ :=
    exists_condition_of_test compiled whole hwhole source hsource
  rw [renderedCondition] at hpart
  split at hpart
  · cases hpart
  · refine askedFor_of_renderedTest member hpart _ ?_
    rw [Clause.tests_map]
    exact List.mem_map_of_mem inPart

/-- The statement of a filter is read back as its table and a condition, every test of which is
asked for by a condition of the filter. -/
theorem readStatement_askedFor {registry : Registry} {filter : Group} {table text : String}
    (compiled : statement registry filter table = .ok text) :
    ∃ clause, readStatement text = some (table, clause) ∧
      ∀ condition ∈ clause, AskedFor filter.conditions condition := by
  obtain ⟨clause, hclause, read⟩ := readStatement_of_compiled compiled
  rw [filterClause_eq_map_renderedClause, map_eq_ok_iff] at hclause
  obtain ⟨original, horiginal, rfl⟩ := hclause
  refine ⟨_, read, fun condition hcondition => ?_⟩
  obtain ⟨written, hwritten, rfl⟩ := Option.map_eq_some_iff.mp hcondition
  obtain ⟨part, hpart, rfl⟩ := Option.map_eq_some_iff.mp hwritten
  rw [AskedFor, Clause.tests_readBack, Clause.map_map]
  exact askedFor_of_renderedClause horiginal part hpart

end Sql

/-! ### Queries of a service -/

namespace Service

/-- Whether the schema of a service lets a condition stand in a filter: the field that it names may,
and allows its operator. -/
def Lets (service : Service) (condition : Condition) : Prop :=
  ∃ field, service.registry.find? condition.field = some field ∧ field.filterable = true ∧
    field.allows condition.operator = true

/-- Whether every test of a query is of a column, and by an operator, of one of the filter's
conditions which the schema lets stand in a filter. The tests of a statement are those of the
condition that its text is read as. -/
def TestsOnlyAllowed (service : Service) (filter : Group) : Query → Prop
  | .structured predicate => ∀ test ∈ predicate.leaves, ∃ condition ∈ filter.conditions,
      test.field? = some condition.field ∧ condition.operator.kind.AsksFor test ∧
        service.Lets condition
  | .sql statement => ∃ clause, Sql.readStatement statement = some (service.target.table, clause) ∧
      ∀ whole ∈ clause, ∀ test ∈ whole.tests, ∃ condition ∈ filter.conditions,
        test.columns = [condition.field] ∧ condition.operator.kind.AsksForClause test ∧
          service.Lets condition

/-- The schema lets every condition of a filter without problems stand in it. -/
theorem lets_of_issues {service : Service} {filter : Group}
    (clean : Validation.issues service.registry filter = []) :
    ∀ condition ∈ filter.conditions, service.Lets condition := by
  rw [Validation.issues_eq_flatMap, List.flatMap_eq_nil_iff] at clean
  intro condition member
  obtain ⟨field, found, admits, _⟩ :=
    (Validation.conditionIssues_eq_nil_iff service.registry condition).mp (clean condition member)
  exact ⟨field, found, admits.filterable, admits.allowed⟩

/-- A query that a service compiles, in either mode, tests only columns that the schema lets stand
in a filter, each by an operator that its field allows. No condition on another field, or by another
operator, stands anywhere in the filter, in whichever bucket and however deep. -/
theorem compile_tests_only_allowed {service : Service} {filter : Group} {mode : Mode}
    {query : Query} (compiled : service.compile filter mode = .ok query) :
    (∀ condition, filter.toNode.Contains condition → service.Lets condition) ∧
      service.TestsOnlyAllowed filter query := by
  have clean := issues_eq_nil_of_compile compiled
  have lets := lets_of_issues clean
  refine ⟨fun condition inside => lets condition ((Node.mem_conditions_iff _ _).mpr inside), ?_⟩
  rw [compile, clean] at compiled
  cases mode with
  | structured =>
      obtain ⟨predicate, hpredicate, rfl⟩ := (map_eq_ok_iff _ _ _).mp compiled
      intro test htest
      obtain ⟨condition, member, tested, htested, inTested⟩ :=
        Predicate.mem_leaves_ofFilter hpredicate test htest
      exact ⟨condition, member,
        Predicate.field?_of_mem_leaves_ofCondition htested test inTested,
        Predicate.asksFor_of_mem_leaves_ofCondition htested test inTested, lets condition member⟩
  | sql =>
      obtain ⟨statement, hstatement, rfl⟩ := (map_eq_ok_iff _ _ _).mp compiled
      obtain ⟨clause, read, asked⟩ := Sql.readStatement_askedFor hstatement
      refine ⟨clause, read, fun whole hwhole test htest => ?_⟩
      obtain ⟨condition, member, column, asks⟩ := asked whole hwhole test htest
      exact ⟨condition, member, column, asks, lets condition member⟩

/-- Users from 28 to 35. The search for a name is dropped, as the group beside it constrains
nothing. -/
def sampleDropped : Group where
  all := some [.condition ⟨"age", .between, some (.list [.integer 28, .integer 35])⟩]
  any := some [.group none none, .condition ⟨"name", .contains, some (.text "an")⟩]

/-- The statement tests the age only, by an operator that it allows; the search that was dropped is
one that the schema lets stand in a filter as well. -/
theorem sample_age_allowed :
    Service.TestsOnlyAllowed ⟨Users.registry, Users.target "users"⟩ sampleDropped
        (.sql "SELECT * FROM \"users\" WHERE (\"age\" BETWEEN 28 AND 35)") ∧
      Service.Lets ⟨Users.registry, Users.target "users"⟩
        ⟨"name", .contains, some (.text "an")⟩ := by
  have compiled : Service.compile ⟨Users.registry, Users.target "users"⟩ sampleDropped .sql =
      .ok (.sql "SELECT * FROM \"users\" WHERE (\"age\" BETWEEN 28 AND 35)") := by rfl
  obtain ⟨lets, tests⟩ := compile_tests_only_allowed compiled
  exact ⟨tests, lets _ (.inAny (.tail _ (.head _)) .self)⟩

end Service

end RowFilter
