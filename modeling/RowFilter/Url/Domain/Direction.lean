import RowFilter.Text.MarkTable
import RowFilter.Url.Domain.DirectionTable

/-!
# Directions of labels

A name with characters that run from right to left must look the same whatever stands around it. So
each of its labels begins with a letter of one direction, holds nothing that runs against it, and
ends with a letter or digit that runs with it; digits of two kinds do not meet in one label.
-/

namespace RowFilter.Url.Domain

open Text

/-- How a character runs. -/
inductive Direction where
  /-- From left to right. -/
  | leftToRight
  /-- From right to left. -/
  | rightToLeft
  /-- As Arabic numbers do, which stand in text from right to left. -/
  | arabicNumber
  /-- As European numbers do, which stand in text of both directions. -/
  | europeanNumber
  /-- As the character before it, on which it is a mark. -/
  | mark
  /-- As those around it. -/
  | neutral
  deriving DecidableEq, Repr

/-- How a character runs. -/
def direction (c : Char) : Direction :=
  if leftToRightMarks.contains c then .leftToRight
  else if spacelessMarks.contains c then .mark
  else if rightToLeft.contains c then .rightToLeft
  else if arabicNumbers.contains c then .arabicNumber
  else if europeanNumbers.contains c then .europeanNumber
  else if neutrals.contains c then .neutral
  else .leftToRight

/-- Whether the direction makes those of a whole name matter. -/
def Direction.isFromRight (d : Direction) : Bool := d = .rightToLeft || d = .arabicNumber

/-- The directions without the marks at the end. -/
def withoutLastMarks (directions : List Direction) : List Direction :=
  (directions.reverse.dropWhile (· = .mark)).reverse

/-- Whether directions may follow one from left to right. -/
def fitsFromLeft (rest : List Direction) : Bool :=
  !rest.any Direction.isFromRight && rest.getLast?.all fun last =>
    last = .leftToRight || last = .europeanNumber

/-- Whether directions may follow one from right to left. -/
def fitsFromRight (rest : List Direction) : Bool :=
  !rest.contains .leftToRight && !(rest.contains .arabicNumber && rest.contains .europeanNumber) &&
    rest.getLast?.all fun last => last ≠ .neutral

/-- Whether the directions of a label fit together. -/
def fitTogether : List Direction → Bool
  | [] => true
  | .leftToRight :: rest => fitsFromLeft (withoutLastMarks rest)
  | .rightToLeft :: rest => fitsFromRight (withoutLastMarks rest)
  | _ => false

/-- Whether the directions in the labels of a name fit, which matters only if one of them runs from
the right. -/
def directionsFit (labels : List (List Char)) : Bool :=
  let directions := labels.map (·.map direction)
  !directions.any (·.any Direction.isFromRight) || directions.all fitTogether

end RowFilter.Url.Domain
