import RowFilter.Proofs.Sql.Rendering

/-!
# Reading statements

A statement names its table and has a condition unless the filter constrains nothing. It is read
back as the table and the condition, and everything in it can be traced to where it comes from.
-/

namespace RowFilter.Sql

open RowFilter.Filter RowFilter.Schema

/-- The table of a statement and its condition, if it has one, from the tokens of the statement. -/
def readStatementTokens : List Token → Option (String × Option (Clause Operand))
  | .keyword .select :: .symbol .star :: .keyword .fromTable :: .identifier table :: rest =>
    match rest with
    | [] => some (table, none)
    | .keyword .whereClause :: condition =>
        (readTokens condition).map fun clause => (table, some clause)
    | _ => none
  | _ => none

/-- The table of a statement and its condition, if it has one. -/
def readStatement (text : String) : Option (String × Option (Clause Operand)) :=
  (tokens? text).bind readStatementTokens

/-- The tokens of a statement. -/
def statementTokens {α : Type} (operand : α → List Token) (table : String)
    (clause : Option (Clause α)) : List Token :=
  .keyword .select :: .symbol .star :: .keyword .fromTable :: .identifier table ::
    match clause with
    | none => []
    | some clause => .keyword .whereClause :: clause.tokens operand

/-- A statement of well-formed literals spells its tokens. -/
theorem spells_selectAll (table : String) {clause : Option (Clause Literal)}
    (wellFormed : ∀ condition ∈ clause, ∀ literal ∈ condition.operands, literal.WellFormed) :
    Spells (selectAll table clause).toList (statementTokens Literal.tokens table clause) := by
  have opening : ∀ {text : List Char} {tokens : List Token}, Spells text tokens →
      Spells ("SELECT * FROM ".toList ++ text)
        (.keyword .select :: .symbol .star :: .keyword .fromTable :: tokens) := fun spells =>
    (spells_keyword .select).spaced
      ((spells_symbol .star).spaced ((spells_keyword .fromTable).spaced spells))
  cases clause with
  | none =>
      have spelled := opening (spells_identifier table)
      show Spells ("SELECT * FROM " ++ identifier table ++ "").toList _
      rw [String.append_empty, String.toList_append]
      exact spelled
  | some condition =>
      have condition_spelled := condition.spells_text fun literal hliteral =>
        Literal.spells_write (wellFormed condition rfl literal hliteral)
      have spelled := opening
        ((spells_identifier table).spaced ((spells_keyword .whereClause).spaced condition_spelled))
      show Spells ("SELECT * FROM " ++ identifier table ++
        (" WHERE " ++ condition.text Literal.write)).toList _
      rw [String.toList_append, String.toList_append, String.toList_append, List.append_assoc]
      exact spelled

/-- A statement of well-formed literals is read back as its table and its clause. -/
theorem readStatement_selectAll (table : String) {clause : Option (Clause Literal)}
    (lists : ∀ condition ∈ clause, condition.ListsNonempty)
    (wellFormed : ∀ condition ∈ clause, ∀ literal ∈ condition.operands, literal.WellFormed) :
    readStatement (selectAll table clause) =
      some (table, clause.map fun condition => (condition.map Literal.operand).readBack) := by
  rw [readStatement, (spells_selectAll table wellFormed).tokens?, Option.bind_some]
  cases clause with
  | none => rfl
  | some condition =>
      have read := readTokens_tokens condition (lists condition rfl) fun literal _ =>
        literal.denotes_operand
      show (readTokens (condition.tokens Literal.tokens)).map _ = _
      rw [read]
      rfl

/-! ### Tracing a clause to its filter -/

/-- What is kept by all ways of building clauses from parts holds of the clause of a group if it
holds of the clauses of its nodes. -/
theorem groupClause_invariant {α : Type} {P : Clause α → Prop}
    (all : ∀ parts, (∀ part ∈ parts, P part) → P (.all parts))
    (any : ∀ parts, (∀ part ∈ parts, P part) → P (.any parts))
    (both : ∀ left right, P left → P right → P (.both left right))
    {alls anys : List (Option (Clause α))} (inAll : ∀ clause ∈ alls, ∀ part ∈ clause, P part)
    (inAny : ∀ clause ∈ anys, ∀ part ∈ clause, P part) :
    ∀ clause ∈ groupClause alls anys, P clause := by
  have bucket : ∀ (wrap : List (Clause α) → Clause α) (clauses : List (Option (Clause α))),
      (∀ parts, (∀ part ∈ parts, P part) → P (wrap parts)) →
        (∀ clause ∈ clauses, ∀ part ∈ clause, P part) →
      ∀ clause ∈ bucketClause wrap (clauses.filterMap id), P clause := by
    intro wrap clauses kept each clause hclause
    rw [bucketClause] at hclause
    split at hclause
    · simp at hclause
    · obtain rfl := Option.some.inj hclause
      apply kept
      intro part hpart
      obtain ⟨other, hother, same⟩ := List.mem_filterMap.mp hpart
      exact each other hother part same
  have allBucket := bucket .all alls all inAll
  have anyBucket : ∀ clause ∈ anyBucketClause anys, P clause := by
    unfold anyBucketClause
    split
    · simp
    · exact bucket .any anys any inAny
  rw [groupClause_eq]
  cases left : bucketClause .all (alls.filterMap id) with
  | none => exact anyBucket
  | some first =>
      rw [left] at allBucket
      cases right : anyBucketClause anys with
      | none => exact allBucket
      | some second =>
          rw [right] at anyBucket
          intro clause hclause
          obtain rfl := Option.some.inj hclause
          exact both first second (allBucket first rfl) (anyBucket second rfl)

/-- Every test in the clause of a node is one in the clause of a condition, whatever conditions are
compiled to. -/
theorem exists_condition_of_test {α ε : Type} {compile : Condition → Except ε (Clause α)}
    {node : Node} {clause : Option (Clause α)}
    (compiled : node.fold (fun condition => (compile condition).map some)
      (compileGroup groupClause) = .ok clause) :
    ∀ whole ∈ clause, ∀ test ∈ whole.tests, ∃ condition ∈ node.conditions, ∃ part,
      compile condition = .ok part ∧ test ∈ part.tests := by
  refine Node.fold_invariant (P := fun clause => ∀ whole ∈ clause, ∀ test ∈ whole.tests,
    ∃ condition ∈ node.conditions, ∃ part,
      compile condition = .ok part ∧ test ∈ part.tests) ?_ ?_ compiled
  · intro condition member result hresult whole hwhole test htest
    obtain ⟨part, hpart, rfl⟩ := (map_eq_ok_iff _ _ _).mp hresult
    obtain rfl := Option.some.inj hwhole
    exact ⟨condition, member, part, hpart, htest⟩
  · intro alls anys inAll inAny
    refine groupClause_invariant (fun parts each => ?_) (fun parts each => ?_)
      (fun left right first second => ?_) inAll inAny
    · rw [Clause.tests_all, List.forall_mem_flatMap]
      exact each
    · rw [Clause.tests_any, List.forall_mem_flatMap]
      exact each
    · exact List.forall_mem_append.mpr ⟨first, second⟩

/-- Whether a literal with its value comes from a condition: it renders a value of the condition as
the field demands, or it is the pattern of such a value. -/
def Rendered.ComesFrom (rendered : Rendered) (registry : Registry) (condition : Condition) : Prop :=
  ∃ field, registry.find? condition.field = some field ∧ ∃ value ∈ condition.values,
    literal? field value = some rendered.literal ∧ rendered.value = value ∨
      ∃ occurrence, rendered = .ofPattern (pattern occurrence value.display)

/-- Whether everything in a clause comes from some conditions, and the clause can be written
down. -/
structure Traced (registry : Registry) (conditions : List Condition) (clause : Clause Rendered) :
    Prop where
  /-- No list is empty. -/
  lists : clause.ListsNonempty
  /-- Every column is a field that a condition names. -/
  columns : ∀ column ∈ clause.columns, ∃ condition ∈ conditions,
    condition.field = column ∧ registry.contains column = true
  /-- Every operand comes from a condition. -/
  operands : ∀ rendered ∈ clause.operands, ∃ condition ∈ conditions,
    rendered.ComesFrom registry condition

theorem rendered_eq_ok_iff (field : Field) (value : Value) (result : Rendered) :
    rendered field value = .ok result ↔
      literal? field value = some result.literal ∧ result.value = value := by
  rw [rendered, literal]
  cases literal? field value with
  | none => simp [Except.map]
  | some literal =>
      obtain ⟨other, source⟩ := result
      simp only [Except.map, Except.ok.injEq, Rendered.mk.injEq, Option.some.injEq, eq_comm]

/-- The literals of some values stand beside these values. -/
theorem map_value_of_rendered {field : Field} {values : List Value} {operands : List Rendered}
    (each : List.Forall₂ (fun value operand => rendered field value = .ok operand)
      values operands) :
    operands.map Rendered.value = values := by
  induction each with
  | nil => rfl
  | cons head tail ih => rw [List.map_cons, ih, ((rendered_eq_ok_iff _ _ _).mp head).2]

/-- The clause of a condition comes from the condition. -/
theorem traced_of_renderedTest {registry : Registry} {conditions : List Condition}
    {condition : Condition} (member : condition ∈ conditions) {field : Field}
    (found : registry.find? condition.field = some field) {clause : Clause Rendered}
    (compiled : renderedTest field condition = .ok clause) :
    Traced registry conditions clause := by
  have contained : registry.contains condition.field = true := by
    rw [Registry.contains, found, Option.isSome_some]
  have column : ∀ name ∈ [condition.field],
      ∃ other ∈ conditions, other.field = name ∧ registry.contains name = true := by
    intro name hname
    obtain rfl := List.mem_singleton.mp hname
    exact ⟨condition, member, rfl, contained⟩
  have source : ∀ {value : Value} {result : Rendered}, value ∈ condition.values →
      rendered field value = .ok result →
      ∃ other ∈ conditions, result.ComesFrom registry other := fun hvalue hresult =>
    ⟨condition, member, field, found, _, hvalue, .inl ((rendered_eq_ok_iff _ _ _).mp hresult)⟩
  rw [renderedTest] at compiled
  cases kind : condition.operator.kind with
  | comparison relation =>
      simp only [kind, bind_eq_ok_iff] at compiled
      obtain ⟨value, argument, operand, hoperand, same⟩ := compiled
      obtain rfl := Except.ok.inj same
      refine ⟨trivial, column, fun rendered hrendered => ?_⟩
      obtain rfl := List.mem_singleton.mp hrendered
      exact source (Condition.mem_values_of_scalarArgument argument) hoperand
  | member =>
      simp only [kind, bind_eq_ok_iff, collect_map_eq_ok_iff] at compiled
      obtain ⟨values, argument, operands, hoperands, same⟩ := compiled
      cases operands with
      | nil =>
          obtain rfl := Except.ok.inj same
          exact ⟨trivial, by simp [Clause.columns], by simp [Clause.operands]⟩
      | cons first rest =>
          obtain rfl := Except.ok.inj same
          refine ⟨List.cons_ne_nil first rest, column, fun rendered hrendered => ?_⟩
          obtain ⟨value, hvalue, hresult⟩ := exists_of_mem_right hoperands hrendered
          rw [← Condition.values_of_listArgument argument] at hvalue
          exact source hvalue hresult
  | between =>
      simp only [kind, bind_eq_ok_iff] at compiled
      obtain ⟨⟨low, high⟩, argument, first, hfirst, second, hsecond, same⟩ := compiled
      obtain rfl := Except.ok.inj same
      have values := Condition.values_of_boundsArgument argument
      refine ⟨trivial, column, fun rendered hrendered => ?_⟩
      rcases List.mem_pair.mp hrendered with rfl | rfl
      · exact source (by simp [values]) hfirst
      · exact source (by simp [values]) hsecond
  | search occurrence =>
      simp only [kind, bind_eq_ok_iff] at compiled
      obtain ⟨value, argument, same⟩ := compiled
      obtain rfl := Except.ok.inj same
      refine ⟨trivial, column, fun rendered hrendered => ?_⟩
      obtain rfl := List.mem_singleton.mp hrendered
      exact ⟨condition, member, field, found, value,
        Condition.mem_values_of_scalarArgument argument,
        .inr ⟨occurrence, rfl⟩⟩
  | isNull =>
      simp only [kind, Except.ok.injEq] at compiled
      rw [← compiled]
      exact ⟨trivial, column, by simp [Clause.operands]⟩
  | isNotNull =>
      simp only [kind, Except.ok.injEq] at compiled
      rw [← compiled]
      exact ⟨trivial, column, by simp [Clause.operands]⟩

namespace Traced

variable {registry : Registry} {conditions : List Condition}

theorem all {parts : List (Clause Rendered)}
    (each : ∀ part ∈ parts, Traced registry conditions part) :
    Traced registry conditions (.all parts) where
  lists := (Clause.listsNonempty_all_iff parts).mpr fun part hpart => (each part hpart).lists
  columns := by
    rw [Clause.columns_all, List.forall_mem_flatMap]
    exact fun part hpart => (each part hpart).columns
  operands := by
    rw [Clause.operands_all, List.forall_mem_flatMap]
    exact fun part hpart => (each part hpart).operands

theorem any {parts : List (Clause Rendered)}
    (each : ∀ part ∈ parts, Traced registry conditions part) :
    Traced registry conditions (.any parts) where
  lists := (Clause.listsNonempty_any_iff parts).mpr fun part hpart => (each part hpart).lists
  columns := by
    rw [Clause.columns_any, List.forall_mem_flatMap]
    exact fun part hpart => (each part hpart).columns
  operands := by
    rw [Clause.operands_any, List.forall_mem_flatMap]
    exact fun part hpart => (each part hpart).operands

theorem both {left right : Clause Rendered} (first : Traced registry conditions left)
    (second : Traced registry conditions right) :
    Traced registry conditions (.both left right) where
  lists := ⟨first.lists, second.lists⟩
  columns := List.forall_mem_append.mpr ⟨first.columns, second.columns⟩
  operands := List.forall_mem_append.mpr ⟨first.operands, second.operands⟩

end Traced

/-- Everything in the clause of a filter comes from the conditions of the filter. -/
theorem traced_of_renderedClause {registry : Registry} {filter : Group}
    {clause : Option (Clause Rendered)} (compiled : renderedClause registry filter = .ok clause) :
    ∀ condition ∈ clause, Traced registry filter.conditions condition := by
  refine Node.fold_invariant
    (P := fun clause => ∀ part ∈ clause, Traced registry filter.conditions part) ?_ ?_ compiled
  · intro condition hcondition result hresult part hpart
    obtain ⟨test, htest, rfl⟩ := (map_eq_ok_iff _ _ _).mp hresult
    obtain rfl := Option.some.inj hpart
    rw [renderedCondition] at htest
    split at htest
    · cases htest
    · rename_i field found
      exact traced_of_renderedTest hcondition found htest
  · intro alls anys inAll inAny
    exact groupClause_invariant (fun _ => Traced.all) (fun _ => Traced.any)
      (fun _ _ => Traced.both) inAll inAny

/-- Traced literals of a registry can be written down. -/
theorem Traced.wellFormed {registry : Registry} {conditions : List Condition}
    {clause : Clause Rendered} (traced : Traced registry conditions clause) :
    ∀ literal ∈ (clause.map Rendered.literal).operands, literal.WellFormed := by
  rw [Clause.operands_map, List.forall_mem_map]
  intro rendered hrendered
  obtain ⟨_, _, field, found, value, _, ⟨literal, _⟩ | ⟨occurrence, rfl⟩⟩ :=
    traced.operands rendered hrendered
  · have plain (type : String) (typed : field.enumType = some type) :=
      Registry.isTypeName_of_mem_fields (Registry.mem_fields_of_find? found) typed
    exact wellFormed_of_literal? plain literal
  · trivial

/-- The statement of a filter is read back as its table and the filter's clause. -/
theorem readStatement_of_compiled {registry : Registry} {filter : Group} {table text : String}
    (compiled : statement registry filter table = .ok text) :
    ∃ clause, filterClause registry filter = .ok clause ∧
      readStatement text =
        some (table, clause.map fun condition => (condition.map Literal.operand).readBack) := by
  obtain ⟨clause, hclause, same⟩ := (bind_eq_ok_iff _ _ _).mp compiled
  obtain rfl := Except.ok.inj same
  have rendering := hclause
  rw [filterClause_eq_map_renderedClause, map_eq_ok_iff] at rendering
  obtain ⟨original, horiginal, rfl⟩ := rendering
  have traced := traced_of_renderedClause horiginal
  refine ⟨_, hclause, readStatement_selectAll table ?_ ?_⟩
  · intro condition hcondition
    obtain ⟨part, hpart, rfl⟩ := Option.map_eq_some_iff.mp hcondition
    exact (Clause.listsNonempty_map_iff _ _).mpr (traced part hpart).lists
  · intro condition hcondition
    obtain ⟨part, hpart, rfl⟩ := Option.map_eq_some_iff.mp hcondition
    exact (traced part hpart).wellFormed

/-! ### A filter with quotes in its texts -/

/-- Fields whose names and types need quoting and casting. -/
def sampleRegistry : Registry :=
  ⟨[{ name := "age", type := .number },
    { name := "role", type := .enumeration, enumType := some "user_role" },
    { name := "na\"me", type := .text }], rfl⟩

/-- A group with both buckets as one of two nodes, a range, a cast label and a search for a
character of patterns. -/
def sampleFilter : Group where
  any := some [
    .group (some [.condition ⟨"age", .between, some (.list [.integer 18, .integer 65])⟩])
      (some [.condition ⟨"role", .eq, some (.text "it's")⟩,
        .condition ⟨"na\"me", .contains, some (.text "O_b")⟩]),
    .condition ⟨"na\"me", .isNull, none⟩]

/-- The statement of the filter. -/
def sampleStatement : String :=
  "SELECT * FROM \"users\" WHERE ((\"age\" BETWEEN 18 AND 65) AND (\"role\" = " ++
    "'it''s'::user_role OR \"na\"\"me\" ILIKE '%O\\_b%') OR \"na\"\"me\" IS NULL)"

theorem statement_sample :
    statement sampleRegistry sampleFilter "users" = .ok sampleStatement := by decide +kernel

end RowFilter.Sql
