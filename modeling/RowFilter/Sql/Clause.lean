import RowFilter.Sql.Quoting

/-!
# Clauses

The condition of a statement as a tree. Its operands are literals in a statement that carries its
values, and the values themselves in a statement that takes them as parameters; the parameters are
then numbered from left to right. Both kinds of statement are written by one function.
-/

namespace RowFilter.Sql

open Text

/-- The condition of a statement, over operands of one kind. -/
inductive Clause (α : Type) where
  /-- Always true. -/
  | always
  /-- Never true. -/
  | never
  /-- A comparison of a column. -/
  | compare (column : String) (relation : Relation) (operand : α)
  /-- A column is equal to one of several operands. -/
  | among (column : String) (operands : List α)
  /-- A column lies between two operands, both included. -/
  | between (column : String) (low high : α)
  /-- A column fits a pattern, in any case. -/
  | like (column : String) (pattern : α)
  /-- A column is null. -/
  | isNull (column : String)
  /-- A column is not null. -/
  | isNotNull (column : String)
  /-- All parts hold; written between parentheses. -/
  | all (parts : List (Clause α))
  /-- One part holds; written between parentheses. -/
  | any (parts : List (Clause α))
  /-- Two clauses hold; written without parentheses, since each brings its own. -/
  | both (left right : Clause α)

namespace Clause

variable {α : Type}

/-- Parts with a connective between them, between parentheses. -/
def connected (connective : String) (parts : List String) : String :=
  "(" ++ joined (" " ++ connective ++ " ") parts ++ ")"

mutual

/-- The text of a clause, given that of its operands. -/
def text (operand : α → String) : Clause α → String
  | .always => "TRUE"
  | .never => "FALSE"
  | .compare column relation value =>
    identifier column ++ " " ++ relation.sign ++ " " ++ operand value
  | .among column operands =>
    identifier column ++ " IN (" ++ joined ", " (operands.map operand) ++ ")"
  | .between column low high =>
    identifier column ++ " BETWEEN " ++ operand low ++ " AND " ++ operand high
  | .like column pattern => identifier column ++ " ILIKE " ++ operand pattern
  | .isNull column => identifier column ++ " IS NULL"
  | .isNotNull column => identifier column ++ " IS NOT NULL"
  | .all [] => "TRUE"
  | .any [] => "FALSE"
  | .all (part :: rest) => connected "AND" (text operand part :: texts operand rest)
  | .any (part :: rest) => connected "OR" (text operand part :: texts operand rest)
  | .both left right => text operand left ++ " AND " ++ text operand right

/-- The texts of clauses. -/
def texts (operand : α → String) : List (Clause α) → List String
  | [] => []
  | part :: rest => text operand part :: texts operand rest

end

mutual

/-- The operands of a clause, from left to right. -/
def operands : Clause α → List α
  | .always => []
  | .never => []
  | .compare _ _ value => [value]
  | .among _ values => values
  | .between _ low high => [low, high]
  | .like _ pattern => [pattern]
  | .isNull _ => []
  | .isNotNull _ => []
  | .all parts => operandsOfParts parts
  | .any parts => operandsOfParts parts
  | .both left right => operands left ++ operands right

/-- The operands of clauses, from left to right. -/
def operandsOfParts : List (Clause α) → List α
  | [] => []
  | part :: rest => operands part ++ operandsOfParts rest

end

/-- The numbers after a given one, as many as there are operands. -/
def numbersAfter (last : Nat) (values : List α) : List Nat := List.range' (last + 1) values.length

mutual

/-- The clause with its operands replaced by numbers, counted on from the last number used. -/
def numberedAfter (last : Nat) : Clause α → Clause Nat
  | .always => .always
  | .never => .never
  | .compare column relation _ => .compare column relation (last + 1)
  | .among column values => .among column (numbersAfter last values)
  | .between column _ _ => .between column (last + 1) (last + 2)
  | .like column _ => .like column (last + 1)
  | .isNull column => .isNull column
  | .isNotNull column => .isNotNull column
  | .all parts => .all (numberedParts last parts)
  | .any parts => .any (numberedParts last parts)
  | .both left right =>
    .both (numberedAfter last left) (numberedAfter (last + (operands left).length) right)

/-- The clauses with their operands replaced by numbers, counted on from the last number used. -/
def numberedParts (last : Nat) : List (Clause α) → List (Clause Nat)
  | [] => []
  | part :: rest => numberedAfter last part :: numberedParts (last + (operands part).length) rest

end

/-- The placeholder of a parameter. -/
def placeholder (number : Nat) : String := "$" ++ toString number

/-- The text of a clause with placeholders numbered after the given number, and the values of the
parameters in order. -/
def parameterised (last : Nat) (clause : Clause α) : String × List α :=
  ((clause.numberedAfter last).text placeholder, clause.operands)

end Clause

end RowFilter.Sql
