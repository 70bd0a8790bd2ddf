import RowFilter.Proofs.Predicate.Verdicts
import RowFilter.Proofs.Sql.Rendering
import RowFilter.Proofs.Sql.Truth

/-!
# Literals in a database

A database reads the literals of a statement in its own way: it knows the types of the columns, and
compares a column with a literal as the type demands. For a condition that compares, the truth of
its clause is the verdict on the literals that the values of the condition are written as.
-/

namespace RowFilter.Sql

open RowFilter.Filter RowFilter.Schema

theorem literal_eq_ok_iff (field : Field) (value : Value) (written : Literal) :
    literal field value = .ok written ↔ literal? field value = some written := by
  unfold literal
  cases literal? field value <;> simp

/-- The literals of a field of numbers are the whole numbers of 64 bits and the finite doubles. -/
theorem literal_number_eq_ok_iff {field : Field} (type : field.type = .number) (value : Value)
    (written : Literal) :
    literal field value = .ok written ↔
      (∃ i, value = .integer i ∧ written = .integer i) ∨
        ∃ x, value = .double x ∧ x.isFinite = true ∧ written = .double x := by
  rw [literal_eq_ok_iff]
  unfold literal?
  rw [type]
  constructor
  · intro rendered
    cases value with
    | integer i => exact .inl ⟨i, rfl, (Option.some.inj rendered).symm⟩
    | double x =>
        obtain ⟨finite, same⟩ := Option.ite_none_right_eq_some.mp rendered
        exact .inr ⟨x, rfl, finite, (Option.some.inj same).symm⟩
    | _ => cases rendered
  · rintro (⟨i, rfl, rfl⟩ | ⟨x, rfl, finite, rfl⟩)
    · rfl
    · exact if_pos finite

/-- The clauses of a condition that compares, and the literals of its values in them. -/
inductive ComparingClause (field : Field) (condition : Condition) : Clause Literal → Prop
  | comparison {relation : Relation} {value : Value} {written : Literal}
      (kind : condition.operator.kind = .comparison relation)
      (argument : condition.scalarArgument = .ok value)
      (hwritten : literal field value = .ok written) :
      ComparingClause field condition (.compare condition.field relation written)
  | member {items : List Value} {operands : List Literal}
      (kind : condition.operator.kind = .member)
      (argument : condition.listArgument = .ok items)
      (related : List.Forall₂ (fun value written => literal field value = .ok written) items
        operands) :
      ComparingClause field condition
        (if operands.isEmpty then .never else .among condition.field operands)
  | between {low high : Value} {first second : Literal}
      (kind : condition.operator.kind = .between)
      (argument : condition.boundsArgument = .ok (low, high))
      (hfirst : literal field low = .ok first) (hsecond : literal field high = .ok second) :
      ComparingClause field condition (.between condition.field first second)

variable {field : Field} {condition : Condition} {clause : Clause Literal}

theorem comparingClause_of_fieldClause (comparing : condition.operator.kind.compares = true)
    (compiled : fieldClause field condition = .ok clause) :
    ComparingClause field condition clause := by
  rw [fieldClause_eq] at compiled
  cases kind : condition.operator.kind with
  | comparison relation =>
      simp only [kind, compareClause, bind_eq_ok_iff] at compiled
      obtain ⟨value, argument, written, hwritten, same⟩ := compiled
      obtain rfl := Except.ok.inj same
      exact .comparison kind argument hwritten
  | member =>
      simp only [kind, bind_eq_ok_iff, collect_map_eq_ok_iff] at compiled
      obtain ⟨items, argument, operands, related, same⟩ := compiled
      obtain rfl := Except.ok.inj same
      exact .member kind argument related
  | between =>
      simp only [kind, bind_eq_ok_iff] at compiled
      obtain ⟨⟨low, high⟩, argument, first, hfirst, second, hsecond, same⟩ := compiled
      obtain rfl := Except.ok.inj same
      exact .between kind argument hfirst hsecond
  | search occurrence => simp [kind, OperatorKind.compares] at comparing
  | isNull => simp [kind, OperatorKind.compares] at comparing
  | isNotNull => simp [kind, OperatorKind.compares] at comparing

namespace ComparingClause

/-- The operands in the clause are the literals of the condition's values. -/
theorem literals (comparing : ComparingClause field condition clause) :
    List.Forall₂ (fun value written => literal field value = .ok written) condition.values
      clause.operands := by
  cases comparing with
  | comparison kind argument hwritten =>
      rw [Condition.values_of_scalarArgument argument]
      exact .cons hwritten .nil
  | member kind argument related =>
      rw [Condition.values_of_listArgument argument]
      cases related with
      | nil => exact .nil
      | cons head tail => exact .cons head tail
  | between kind argument hfirst hsecond =>
      rw [Condition.values_of_boundsArgument argument]
      exact .cons hfirst (.cons hsecond .nil)

end ComparingClause

/-- The order of a column and the literal that a value is written as. -/
def writtenOrder (database : Database Literal) (field : Field) (column : Option Json)
    (value : Value) : Option Ordering :=
  (literal? field value).bind (database.orderOf column)

theorem writtenOrder_of_literal {value : Value} {written : Literal}
    (hwritten : literal field value = .ok written) (database : Database Literal)
    (column : Option Json) :
    writtenOrder database field column value = database.orderOf column written := by
  rw [writtenOrder, (literal_eq_ok_iff _ _ _).mp hwritten, Option.bind_some]

/-- The clause of a condition that compares is true in a database where the condition holds by the
order of the column and its literals. -/
theorem ComparingClause.truthIn_iff (comparing : ComparingClause field condition clause)
    (database : Database Literal) (record : Record) :
    clause.truthIn database record = .yes ↔
      condition.holdsBy (writtenOrder database field (record.value? condition.field)) = true := by
  cases comparing with
  | comparison kind argument hwritten =>
      rw [Condition.holdsBy_comparison kind argument, Clause.truthIn, Truth.ofOrder_eq_yes_iff,
        writtenOrder_of_literal hwritten]
  | @member items operands kind argument related =>
      have orders := map_eq_map_of_forall₂ related fun _ _ _ hwritten =>
        (writtenOrder_of_literal hwritten database (record.value? condition.field)).symm
      rw [Condition.holdsBy_member kind argument, List.any_eq_true]
      simp only [beq_iff_eq, ← List.mem_map, ← orders]
      cases operands with
      | nil => simp [Clause.truthIn]
      | cons first rest =>
          exact Clause.truthIn_among_iff database record condition.field (first :: rest)
  | between kind argument hfirst hsecond =>
      rw [Condition.holdsBy_between kind argument, Clause.truthIn, Truth.and_eq_yes_iff,
        Truth.ofOrder_eq_yes_iff, Truth.ofOrder_eq_yes_iff, Bool.and_eq_true,
        writtenOrder_of_literal hfirst, writtenOrder_of_literal hsecond]

end RowFilter.Sql
