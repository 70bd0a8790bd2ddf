import Mathlib.Data.List.Basic
import RowFilter.Sql.Clause

/-!
# Recursion over clauses

A clause holds lists of clauses, so everything that is computed from clauses comes with a companion
for lists. The companions are maps, and a statement about all clauses is proved by one induction in
which it may be assumed of every part.
-/

namespace RowFilter.Sql.Clause

variable {α β : Type}

/-- Induction over clauses: of a clause with parts the statement may be assumed for each part. -/
@[elab_as_elim]
theorem induction {motive : Clause α → Prop} (always : motive .always) (never : motive .never)
    (compare : ∀ column relation operand, motive (.compare column relation operand))
    (among : ∀ column operands, motive (.among column operands))
    (between : ∀ column low high, motive (.between column low high))
    (like : ∀ column pattern, motive (.like column pattern))
    (isNull : ∀ column, motive (.isNull column)) (isNotNull : ∀ column, motive (.isNotNull column))
    (all : ∀ parts, (∀ part ∈ parts, motive part) → motive (.all parts))
    (any : ∀ parts, (∀ part ∈ parts, motive part) → motive (.any parts))
    (both : ∀ left right, motive left → motive right → motive (.both left right))
    (clause : Clause α) :
    motive clause := by
  refine @Clause.rec α motive (fun parts => ∀ part ∈ parts, motive part)
    always never compare among between like isNull
    isNotNull all any both ?_ ?_ clause
  · intro part hpart
    simp at hpart
  · intro head tail hhead htail part hpart
    rcases List.mem_cons.mp hpart with rfl | later
    · exact hhead
    · exact htail part later

theorem texts_eq_map (operand : α → String) (parts : List (Clause α)) :
    texts operand parts = parts.map (text operand) := by
  induction parts with
  | nil => rfl
  | cons part rest ih => rw [texts, ih, List.map_cons]

theorem operandsOfParts_eq_flatMap (parts : List (Clause α)) :
    operandsOfParts parts = parts.flatMap operands := by
  induction parts with
  | nil => rfl
  | cons part rest ih => rw [operandsOfParts, ih, List.flatMap_cons]

theorem operands_all (parts : List (Clause α)) : (all parts).operands = parts.flatMap operands := by
  rw [operands, operandsOfParts_eq_flatMap]

theorem operands_any (parts : List (Clause α)) : (any parts).operands = parts.flatMap operands := by
  rw [operands, operandsOfParts_eq_flatMap]

/-- An operand of a part is an operand of the whole. -/
theorem mem_operandsOfParts {parts : List (Clause α)} {part : Clause α} (hpart : part ∈ parts)
    {a : α} (ha : a ∈ part.operands) : a ∈ operandsOfParts parts := by
  rw [operandsOfParts_eq_flatMap]
  exact List.mem_flatMap.mpr ⟨part, hpart, ha⟩

mutual

/-- The clause with every operand replaced by what it is mapped to. -/
def map (f : α → β) : Clause α → Clause β
  | .always => .always
  | .never => .never
  | .compare column relation operand => .compare column relation (f operand)
  | .among column operands => .among column (operands.map f)
  | .between column low high => .between column (f low) (f high)
  | .like column pattern => .like column (f pattern)
  | .isNull column => .isNull column
  | .isNotNull column => .isNotNull column
  | .all parts => .all (mapParts f parts)
  | .any parts => .any (mapParts f parts)
  | .both left right => .both (map f left) (map f right)

/-- The clauses with every operand replaced by what it is mapped to. -/
def mapParts (f : α → β) : List (Clause α) → List (Clause β)
  | [] => []
  | part :: rest => map f part :: mapParts f rest

end

theorem mapParts_eq_map (f : α → β) (parts : List (Clause α)) :
    mapParts f parts = parts.map (map f) := by
  induction parts with
  | nil => rfl
  | cons part rest ih => rw [mapParts, ih, List.map_cons]

@[simp] theorem map_all (f : α → β) (parts : List (Clause α)) :
    (all parts).map f = .all (parts.map (map f)) := by
  rw [map, mapParts_eq_map]

@[simp] theorem map_any (f : α → β) (parts : List (Clause α)) :
    (any parts).map f = .any (parts.map (map f)) := by
  rw [map, mapParts_eq_map]

/-- Two maps one after the other are one map. -/
theorem map_map {γ : Type} (f : α → β) (g : β → γ) (clause : Clause α) :
    (clause.map f).map g = clause.map (g ∘ f) := by
  induction clause using induction with
  | always => rfl
  | never => rfl
  | compare => rfl
  | among column operands => rw [map, map, map, List.map_map]
  | between => rfl
  | like => rfl
  | isNull => rfl
  | isNotNull => rfl
  | all parts ih =>
      rw [map_all, map_all, map_all, List.map_map]
      exact congrArg all (List.map_congr_left ih)
  | any parts ih =>
      rw [map_any, map_any, map_any, List.map_map]
      exact congrArg any (List.map_congr_left ih)
  | both left right hleft hright => rw [map, map, map, hleft, hright]

private theorem operandsOfParts_map (f : α → β) {parts : List (Clause α)}
    (each : ∀ part ∈ parts, (part.map f).operands = part.operands.map f) :
    operandsOfParts (parts.map (map f)) = (operandsOfParts parts).map f := by
  rw [operandsOfParts_eq_flatMap, operandsOfParts_eq_flatMap, List.flatMap_map, List.map_flatMap]
  exact List.flatMap_congr each

/-- The operands of a mapped clause are the mapped operands. -/
theorem operands_map (f : α → β) (clause : Clause α) :
    (clause.map f).operands = clause.operands.map f := by
  induction clause using induction with
  | always => rfl
  | never => rfl
  | compare => rfl
  | among => rfl
  | between => rfl
  | like => rfl
  | isNull => rfl
  | isNotNull => rfl
  | all parts ih =>
      rw [map_all]
      exact operandsOfParts_map f ih
  | any parts ih =>
      rw [map_any]
      exact operandsOfParts_map f ih
  | both left right hleft hright =>
      rw [map, operands, operands, hleft, hright, List.map_append]

mutual

/-- The columns that a clause tests, from left to right. -/
def columns : Clause α → List String
  | .always => []
  | .never => []
  | .compare column _ _ => [column]
  | .among column _ => [column]
  | .between column _ _ => [column]
  | .like column _ => [column]
  | .isNull column => [column]
  | .isNotNull column => [column]
  | .all parts => columnsOfParts parts
  | .any parts => columnsOfParts parts
  | .both left right => columns left ++ columns right

/-- The columns that clauses test, from left to right. -/
def columnsOfParts : List (Clause α) → List String
  | [] => []
  | part :: rest => columns part ++ columnsOfParts rest

end

private theorem columnsOfParts_eq_flatMap (parts : List (Clause α)) :
    columnsOfParts parts = parts.flatMap columns := by
  induction parts with
  | nil => rfl
  | cons part rest ih => rw [columnsOfParts, ih, List.flatMap_cons]

theorem columns_all (parts : List (Clause α)) : (all parts).columns = parts.flatMap columns := by
  rw [columns, columnsOfParts_eq_flatMap]

theorem columns_any (parts : List (Clause α)) : (any parts).columns = parts.flatMap columns := by
  rw [columns, columnsOfParts_eq_flatMap]

theorem columns_map (f : α → β) (clause : Clause α) : (clause.map f).columns = clause.columns := by
  induction clause using induction with
  | always => rfl
  | never => rfl
  | compare => rfl
  | among => rfl
  | between => rfl
  | like => rfl
  | isNull => rfl
  | isNotNull => rfl
  | all parts ih =>
      rw [map_all, columns_all, List.flatMap_map, columns_all]
      exact List.flatMap_congr ih
  | any parts ih =>
      rw [map_any, columns_any, List.flatMap_map, columns_any]
      exact List.flatMap_congr ih
  | both left right hleft hright => rw [map, columns, columns, hleft, hright]

mutual

/-- The tests of single columns that a clause is built over, from left to right. -/
def tests : Clause α → List (Clause α)
  | .always => []
  | .never => []
  | .all parts => testsOfParts parts
  | .any parts => testsOfParts parts
  | .both left right => tests left ++ tests right
  | test => [test]

/-- The tests of single columns that clauses are built over, from left to right. -/
def testsOfParts : List (Clause α) → List (Clause α)
  | [] => []
  | part :: rest => tests part ++ testsOfParts rest

end

private theorem testsOfParts_eq_flatMap (parts : List (Clause α)) :
    testsOfParts parts = parts.flatMap tests := by
  induction parts with
  | nil => rfl
  | cons part rest ih => rw [testsOfParts, ih, List.flatMap_cons]

theorem tests_all (parts : List (Clause α)) : (all parts).tests = parts.flatMap tests := by
  rw [tests, testsOfParts_eq_flatMap]

theorem tests_any (parts : List (Clause α)) : (any parts).tests = parts.flatMap tests := by
  rw [tests, testsOfParts_eq_flatMap]

/-- The tests of a mapped clause are the mapped tests. -/
theorem tests_map (f : α → β) (clause : Clause α) :
    (clause.map f).tests = clause.tests.map (map f) := by
  induction clause using induction with
  | all parts ih =>
      rw [map_all, tests_all, tests_all, List.flatMap_map, List.map_flatMap]
      exact List.flatMap_congr ih
  | any parts ih =>
      rw [map_any, tests_any, tests_any, List.flatMap_map, List.map_flatMap]
      exact List.flatMap_congr ih
  | both left right hleft hright => rw [map, tests, tests, hleft, hright, List.map_append]
  | _ => rfl

/-- The operands of a clause are those of its tests. -/
theorem operands_eq_flatMap_tests (clause : Clause α) :
    clause.operands = clause.tests.flatMap operands := by
  induction clause using induction with
  | all parts ih =>
      rw [operands_all, tests_all, List.flatMap_assoc]
      exact List.flatMap_congr ih
  | any parts ih =>
      rw [operands_any, tests_any, List.flatMap_assoc]
      exact List.flatMap_congr ih
  | both left right hleft hright => rw [operands, tests, hleft, hright, List.flatMap_append]
  | always => rfl
  | never => rfl
  | _ => exact (List.flatMap_singleton _ _).symm

mutual

/-- Whether no list of operands in the clause is empty; an empty one could not be written down. -/
def ListsNonempty : Clause α → Prop
  | .among _ operands => operands ≠ []
  | .all parts => ListsNonemptyInParts parts
  | .any parts => ListsNonemptyInParts parts
  | .both left right => ListsNonempty left ∧ ListsNonempty right
  | _ => True

/-- Whether no list of operands in the clauses is empty. -/
def ListsNonemptyInParts : List (Clause α) → Prop
  | [] => True
  | part :: rest => ListsNonempty part ∧ ListsNonemptyInParts rest

end

theorem listsNonemptyInParts_iff (parts : List (Clause α)) :
    ListsNonemptyInParts parts ↔ ∀ part ∈ parts, part.ListsNonempty := by
  induction parts with
  | nil => simp [ListsNonemptyInParts]
  | cons part rest ih => simp [ListsNonemptyInParts, ih]

theorem listsNonempty_all_iff (parts : List (Clause α)) :
    (all parts).ListsNonempty ↔ ∀ part ∈ parts, part.ListsNonempty := by
  rw [ListsNonempty, listsNonemptyInParts_iff]

theorem listsNonempty_any_iff (parts : List (Clause α)) :
    (any parts).ListsNonempty ↔ ∀ part ∈ parts, part.ListsNonempty := by
  rw [ListsNonempty, listsNonemptyInParts_iff]

/-- Mapping operands empties no list and fills none. -/
theorem listsNonempty_map_iff (f : α → β) (clause : Clause α) :
    (clause.map f).ListsNonempty ↔ clause.ListsNonempty := by
  induction clause using induction with
  | always => rfl
  | never => rfl
  | compare => rfl
  | among column operands => simp [map, ListsNonempty]
  | between => rfl
  | like => rfl
  | isNull => rfl
  | isNotNull => rfl
  | all parts ih =>
      rw [map_all, listsNonempty_all_iff, listsNonempty_all_iff, List.forall_mem_map]
      exact forall₂_congr ih
  | any parts ih =>
      rw [map_any, listsNonempty_any_iff, listsNonempty_any_iff, List.forall_mem_map]
      exact forall₂_congr ih
  | both left right hleft hright => rw [map, ListsNonempty, ListsNonempty, hleft, hright]

end RowFilter.Sql.Clause
