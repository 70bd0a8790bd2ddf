/-!
# Comparisons and text patterns

The six comparisons and the three ways in which a text may occur in another, as predicates,
statements and where-objects share them.
-/

namespace RowFilter

/-- A comparison of two values. -/
inductive Relation where
  /-- Equal. -/
  | equal
  /-- Not equal. -/
  | notEqual
  /-- Less. -/
  | less
  /-- Less or equal. -/
  | lessOrEqual
  /-- Greater. -/
  | greater
  /-- Greater or equal. -/
  | greaterOrEqual
  deriving DecidableEq, Repr

/-- Whether the comparison holds of two values in the given order. -/
def Relation.holds : Relation → Ordering → Bool
  | .equal, order => order == .eq
  | .notEqual, order => order != .eq
  | .less, order => order == .lt
  | .lessOrEqual, order => order != .gt
  | .greater, order => order == .gt
  | .greaterOrEqual, order => order != .lt

/-- The sign of a comparison in statements. -/
def Relation.sign : Relation → String
  | .equal => "="
  | .notEqual => "!="
  | .less => "<"
  | .lessOrEqual => "<="
  | .greater => ">"
  | .greaterOrEqual => ">="

/-- Where a text must occur in another. -/
inductive Occurrence where
  /-- Anywhere. -/
  | anywhere
  /-- At the start. -/
  | atStart
  /-- At the end. -/
  | atEnd
  deriving DecidableEq, Repr

end RowFilter
