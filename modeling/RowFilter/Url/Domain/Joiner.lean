import RowFilter.Text.Composed
import RowFilter.Text.MarkTable
import RowFilter.Url.Domain.JoiningTable

/-!
# Joiners

Two invisible characters tell whether the characters around them are joined. A label may hold one
only where it makes a difference: after a sign that takes the vowel from a consonant or, if it keeps
characters apart, between two that would join. Marks in between do not count.
-/

namespace RowFilter.Url.Domain

open Text

/-- The character that keeps its neighbours apart. -/
def nonJoiner : Char := Char.ofNat 0x200C

/-- The character that joins its neighbours. -/
def joiner : Char := Char.ofNat 0x200D

/-- Whether characters join as if the character were not there. -/
def isTransparent (c : Char) : Bool := spacelessMarks.contains c || c.toNat = 0x1E94B

/-- Whether a character joins what stands before it. -/
def joinsBefore (c : Char) : Bool := joiningBothSides.contains c || joiningBefore.contains c

/-- Whether a character joins what stands after it. -/
def joinsAfter (c : Char) : Bool := joiningBothSides.contains c || joiningAfter.contains c

/-- Whether the first character that is not transparent has the property. -/
def leadsTo (property : Char → Bool) : List Char → Bool
  | [] => false
  | c :: rest => property c || (isTransparent c && leadsTo property rest)

/-- Whether a sign takes the vowel from a consonant. -/
def isVowelKiller (c : Char) : Bool := combiningClass c = 9

/-- Whether a character may stand between the characters before it, nearest first, and those after
it. -/
def mayStand (c : Char) (before after : List Char) : Bool :=
  (c ≠ nonJoiner && c ≠ joiner) || before.head?.any isVowelKiller ||
    (c = nonJoiner && leadsTo joinsAfter before && leadsTo joinsBefore after)

/-- Whether joiners may stand where they do; the characters before are given nearest first. -/
def joinersFitAfter (before : List Char) : List Char → Bool
  | [] => true
  | c :: rest => mayStand c before rest && joinersFitAfter (c :: before) rest

/-- Whether the joiners of a label may stand where they do. -/
def joinersFit (label : List Char) : Bool := joinersFitAfter [] label

end RowFilter.Url.Domain
