/-!
# Ranges of characters

A property of characters that a standard gives is written down as data: a set of characters as
closed ranges of code points in ascending order, and a mapping as runs of code points that move
together. A character is looked up by comparing numbers.
-/

namespace RowFilter.Text

/-- A set of characters: closed ranges of code points, ascending and apart. -/
structure CharSet where
  /-- First and last code point of each range. -/
  ranges : List (Nat × Nat)

/-- Whether a code point lies in one of the ranges; the search ends at the first range that starts
beyond it. -/
def inRanges (n : Nat) : List (Nat × Nat) → Bool
  | [] => false
  | (first, last) :: rest => if n < first then false else if n ≤ last then true else inRanges n rest

/-- Whether the set holds the character. -/
def CharSet.contains (set : CharSet) (c : Char) : Bool := inRanges c.toNat set.ranges

/-- Code points `first, first + stride, …, last`, mapped to `target, target + stride, …`. -/
structure CharRun where
  /-- The first code point of the run. -/
  first : Nat
  /-- The last code point of the run. -/
  last : Nat
  /-- The distance between neighbours, one or two. -/
  stride : Nat
  /-- What the first code point is mapped to. -/
  target : Nat

/-- What a run maps a code point to, if the run covers it. -/
def CharRun.map? (run : CharRun) (n : Nat) : Option Nat :=
  if run.first ≤ n && n ≤ run.last && (n - run.first) % run.stride == 0 then
    some (run.target + (n - run.first))
  else none

/-- The code point that the first covering run gives, or the code point itself. -/
def mapThrough (runs : List CharRun) (n : Nat) : Nat :=
  (runs.findSome? (·.map? n)).getD n

end RowFilter.Text
