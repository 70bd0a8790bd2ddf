import RowFilter.Text.Composed
import RowFilter.Url.Domain.MappingTable
import RowFilter.Url.Domain.RefusedTable

/-!
# Plain names

A domain name may be written in many ways: in capitals, with wide letters, with invisible characters
in between. All of them are read as the one plain name that the tables and the composed form lead
to.
-/

namespace RowFilter.Url.Domain

open Text

/-- The character that is listed for a code point. -/
def replacementOf? (n : Nat) : Option Char :=
  replacements.findSome? fun (first, targets) =>
    if first ≤ n then targets.toList[n - first]? else none

/-- The characters that are listed for a code point. -/
def expansionOf? (n : Nat) : Option (List Char) :=
  expansions.findSome? fun (first, targets) =>
    if first ≤ n then (targets.toList.splitOn '|')[n - first]? else none

/-- What stands in a plain name for a character, unless it is refused. -/
def plainChar? (c : Char) : Option (List Char) :=
  if refused.contains c then none
  else if dropped.contains c then some []
  else
    some ((expansionOf? c.toNat).getD
      [(replacementOf? c.toNat).getD (Char.ofNat (mapThrough replacementRuns c.toNat))])

/-- The plain name of a text, unless a character is refused. -/
def plain? (text : List Char) : Option (List Char) :=
  (text.mapM plainChar?).map fun parts => composed parts.flatten

end RowFilter.Url.Domain
