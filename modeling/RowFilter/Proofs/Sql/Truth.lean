import RowFilter.Predicate.Comparison
import RowFilter.Proofs.Json.Records
import RowFilter.Proofs.Sql.Grammar
import RowFilter.Proofs.Sql.Like

/-!
# Truth of conditions

The three-valued logic by which a database decides a condition for a row. A comparison with a column
that is missing or null is unknown, and so is one with a null operand; `AND` and `OR` are those of
Kleene; a test for null is never unknown. A row is selected only where the condition is true, not
where it is unknown.

How a column and an operand compare is up to the database; kinds of values that do not compare give
an unknown comparison. Where an operand stands for a value, they are compared as the rest of the
library compares them.
-/

namespace RowFilter.Sql

open RowFilter.Filter

/-- A truth value. -/
inductive Truth where
  | yes
  | no
  | unknown
  deriving DecidableEq, Repr

namespace Truth

/-- The truth value of something that is decided. -/
def ofBool (b : Bool) : Truth := if b then .yes else .no

/-- The truth of a conjunction: a false part decides it, then an unknown one. -/
def and : Truth → Truth → Truth
  | .no, _ => .no
  | .yes, right => right
  | .unknown, .no => .no
  | .unknown, _ => .unknown

/-- The truth of a disjunction: a true part decides it, then an unknown one. -/
def or : Truth → Truth → Truth
  | .yes, _ => .yes
  | .no, right => right
  | .unknown, .yes => .yes
  | .unknown, _ => .unknown

/-- The truth of a conjunction of any number of parts. -/
def all (parts : List Truth) : Truth := parts.foldr and .yes

/-- The truth of a disjunction of any number of parts. -/
def any (parts : List Truth) : Truth := parts.foldr or .no

@[simp] theorem ofBool_eq_yes_iff (b : Bool) : ofBool b = .yes ↔ b = true := by cases b <;> decide

@[simp] theorem and_eq_yes_iff (left right : Truth) :
    left.and right = .yes ↔ left = .yes ∧ right = .yes := by
  cases left <;> cases right <;> decide

@[simp] theorem or_eq_yes_iff (left right : Truth) :
    left.or right = .yes ↔ left = .yes ∨ right = .yes := by
  cases left <;> cases right <;> decide

theorem and_yes (left : Truth) : left.and .yes = left := by cases left <;> rfl

theorem or_no (left : Truth) : left.or .no = left := by cases left <;> rfl

theorem and_assoc (first second third : Truth) :
    (first.and second).and third = first.and (second.and third) := by
  cases first <;> cases second <;> cases third <;> rfl

@[simp] theorem any_cons (part : Truth) (rest : List Truth) :
    any (part :: rest) = part.or (any rest) := rfl

@[simp] theorem all_cons (part : Truth) (rest : List Truth) :
    all (part :: rest) = part.and (all rest) := rfl

theorem all_append (first second : List Truth) :
    all (first ++ second) = (all first).and (all second) := by
  induction first with
  | nil => rfl
  | cons part rest ih =>
      rw [List.cons_append, all_cons, ih, ← and_assoc, all_cons]

/-- A conjunction of rows of parts is the conjunction of the conjunctions of the rows. -/
theorem all_flatMap {ι : Type} (rows : ι → List Truth) (items : List ι) :
    all (items.flatMap rows) = all (items.map fun item => all (rows item)) := by
  induction items with
  | nil => rfl
  | cons item rest ih => rw [List.flatMap_cons, all_append, ih, List.map_cons, all_cons]

@[simp] theorem all_singleton (part : Truth) : all [part] = part := and_yes part

@[simp] theorem any_singleton (part : Truth) : any [part] = part := or_no part

/-- A conjunction is true if every part is. -/
theorem all_eq_yes_iff (parts : List Truth) : all parts = .yes ↔ ∀ part ∈ parts, part = .yes := by
  induction parts with
  | nil => simp [all]
  | cons part rest ih => rw [all_cons, and_eq_yes_iff, ih, List.forall_mem_cons]

/-- A disjunction is true if some part is. -/
theorem any_eq_yes_iff (parts : List Truth) : any parts = .yes ↔ .yes ∈ parts := by
  induction parts with
  | nil => simp [any]
  | cons part rest ih => rw [any_cons, or_eq_yes_iff, ih, List.mem_cons, eq_comm]

/-- The truth of a relation between what has an order, unknown without one. -/
def ofOrder (relation : Relation) : Option Ordering → Truth
  | some order => ofBool (relation.holds order)
  | none => .unknown

theorem ofOrder_eq_yes_iff (relation : Relation) (order : Option Ordering) :
    ofOrder relation order = .yes ↔ order.any relation.holds = true := by
  cases order <;> simp [ofOrder]

/-- The truth of a fit of a column to a pattern; unknown unless both are texts. -/
def ofPattern (column : Option Json) (pattern : Value) : Truth :=
  match column, pattern with
  | some (.string text), .text pattern => ofBool (matchesPattern pattern text)
  | _, _ => .unknown

end Truth

/-! ### Clauses in a database -/

/-- How a database compares columns with operands. -/
structure Database (α : Type) where
  /-- The order of a column's value and an operand, if they compare. -/
  order : Json → α → Option Ordering
  /-- Whether a column fits a pattern. -/
  fits : Option Json → α → Truth

namespace Database

variable {α : Type}

/-- The order of a column and an operand, if there is a value in the column and they compare. -/
def orderOf (database : Database α) (column : Option Json) (operand : α) : Option Ordering :=
  column.bind fun json => database.order json operand

/-- The database that compares operands as the library compares the values that they stand for. -/
def ofValues (value : α → Value) : Database α where
  order json operand := Comparison.order? json (value operand)
  fits column operand := .ofPattern column (value operand)

end Database

namespace Clause

variable {α β : Type}

mutual

/-- The truth of a clause for a row of a database. -/
def truthIn (database : Database α) (record : Record) : Clause α → Truth
  | .always => .yes
  | .never => .no
  | .compare column relation operand =>
    .ofOrder relation (database.orderOf (record.value? column) operand)
  | .among column operands =>
    .any (operands.map fun operand =>
      .ofOrder .equal (database.orderOf (record.value? column) operand))
  | .between column low high =>
    .and (.ofOrder .greaterOrEqual (database.orderOf (record.value? column) low))
      (.ofOrder .lessOrEqual (database.orderOf (record.value? column) high))
  | .like column pattern => database.fits (record.value? column) pattern
  | .isNull column => .ofBool (record.value? column).isNone
  | .isNotNull column => .ofBool (record.value? column).isSome
  | .all parts => .all (truthsIn database record parts)
  | .any parts => .any (truthsIn database record parts)
  | .both left right => .and (truthIn database record left) (truthIn database record right)

/-- The truths of clauses for a row of a database. -/
def truthsIn (database : Database α) (record : Record) : List (Clause α) → List Truth
  | [] => []
  | part :: rest => truthIn database record part :: truthsIn database record rest

end

theorem truthsIn_eq_map (database : Database α) (record : Record) (parts : List (Clause α)) :
    truthsIn database record parts = parts.map (truthIn database record) := by
  induction parts with
  | nil => rfl
  | cons part rest ih => rw [truthsIn, ih, List.map_cons]

/-- A column is among operands if it is equal to one of them. -/
theorem truthIn_among_iff (database : Database α) (record : Record) (column : String)
    (operands : List α) :
    (Clause.among column operands).truthIn database record = .yes ↔
      some .eq ∈ operands.map (database.orderOf (record.value? column)) := by
  have equal : ∀ order : Option Ordering, order.any Relation.equal.holds = true ↔
      order = some .eq := by
    intro order
    cases order with
    | none => simp
    | some order => cases order <;> decide
  rw [truthIn, Truth.any_eq_yes_iff, List.mem_map, List.mem_map]
  simp only [Truth.ofOrder_eq_yes_iff, equal]

/-! ### Clauses with values -/

/-- The truth of a clause for a row, given the values that its operands stand for. -/
def truth (value : α → Value) (record : Record) (clause : Clause α) : Truth :=
  clause.truthIn (.ofValues value) record

theorem truth_all (value : α → Value) (record : Record) (parts : List (Clause α)) :
    (all parts).truth value record = .all (parts.map (truth value record)) := by
  rw [truth, truthIn, truthsIn_eq_map]
  rfl

theorem truth_any (value : α → Value) (record : Record) (parts : List (Clause α)) :
    (any parts).truth value record = .any (parts.map (truth value record)) := by
  rw [truth, truthIn, truthsIn_eq_map]
  rfl

theorem truth_both (value : α → Value) (record : Record) (left right : Clause α) :
    (both left right).truth value record =
      .and (left.truth value record) (right.truth value record) := by
  rw [truth, truthIn]
  rfl

/-- A comparison is true if column and value have an order for which it holds. -/
theorem truth_compare_iff (value : α → Value) (record : Record) (column : String)
    (relation : Relation) (operand : α) :
    (compare column relation operand).truth value record = .yes ↔
      ((record.value? column).bind fun json =>
        Comparison.order? json (value operand)).any relation.holds = true := by
  rw [truth, truthIn, Truth.ofOrder_eq_yes_iff]
  rfl

/-- A range is two comparisons. -/
theorem truth_between_iff (value : α → Value) (record : Record) (column : String) (low high : α) :
    (between column low high).truth value record = .yes ↔
      (compare column .greaterOrEqual low).truth value record = .yes ∧
        (compare column .lessOrEqual high).truth value record = .yes := by
  simp only [truth, truthIn, Truth.and_eq_yes_iff]

/-- The truth of a mapped clause is that of the clause with its operands valued through the map. -/
theorem truth_map (f : α → β) (value : β → Value) (record : Record) (clause : Clause α) :
    (clause.map f).truth value record = clause.truth (value ∘ f) record := by
  induction clause using induction with
  | always => rfl
  | never => rfl
  | compare => rfl
  | among column operands =>
      rw [map, truth, truthIn, truth, truthIn, List.map_map]
      rfl
  | between => rfl
  | like => rfl
  | isNull => rfl
  | isNotNull => rfl
  | all parts ih =>
      rw [map_all, truth_all, truth_all, List.map_map]
      exact congrArg Truth.all (List.map_congr_left ih)
  | any parts ih =>
      rw [map_any, truth_any, truth_any, List.map_map]
      exact congrArg Truth.any (List.map_congr_left ih)
  | both left right hleft hright => rw [map, truth_both, truth_both, hleft, hright]

/-- The conjuncts as which a clause is read back are together as true as the clause. -/
theorem all_truth_conjuncts (value : α → Value) (record : Record) (clause : Clause α) :
    Truth.all (clause.conjuncts.map (truth value record)) = clause.truth value record := by
  induction clause using induction with
  | all parts ih =>
      cases parts with
      | nil => rfl
      | cons part rest =>
          rw [conjuncts_all_cons, List.map_singleton, Truth.all_singleton, truth_any,
            List.map_singleton, Truth.any_singleton, truth_all, List.map_flatMap, Truth.all_flatMap,
            truth_all]
          exact congrArg Truth.all (List.map_congr_left ih)
  | any parts ih =>
      cases parts with
      | nil => rfl
      | cons part rest =>
          rw [conjuncts_any_cons, List.map_singleton, Truth.all_singleton, truth_any, List.map_map,
            truth_any]
          apply congrArg Truth.any
          apply List.map_congr_left
          intro other hother
          rw [Function.comp_apply, truth_all, ih other hother]
  | both left right hleft hright =>
      rw [conjuncts, List.map_append, Truth.all_append, hleft, hright, truth_both]
  | _ => exact Truth.all_singleton _

/-- A clause and what it is read back as are equally true. -/
theorem truth_readBack (value : α → Value) (record : Record) (clause : Clause α) :
    clause.readBack.truth value record = clause.truth value record := by
  rw [readBack, truth_any, List.map_singleton, Truth.any_singleton, truth_all, all_truth_conjuncts]

end Clause

end RowFilter.Sql
