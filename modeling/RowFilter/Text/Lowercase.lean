import RowFilter.Text.CaseTable
import RowFilter.Text.CasedTable

/-!
# Lower case of whole texts

Lower-casing maps a text character by character, with two exceptions: a capital I with a dot becomes
two characters, and a capital sigma becomes the final form when it ends a word. Because of the sigma
the lower case of a part of a text need not be a part of the lower case of the text.
-/

namespace RowFilter.Text

/-- The lower case of one character standing alone. -/
def lowerChar (c : Char) : List Char :=
  if c.toNat < 0x80 then
    [if 'A' ≤ c && c ≤ 'Z' then Char.ofNat (c.toNat + 32) else c]
  else if c.toNat = 0x130 then
    [Char.ofNat 0x69, Char.ofNat 0x307]
  else
    [Char.ofNat (mapThrough lowerRuns c.toNat)]

/-- Whether the first character that is not case-ignorable exists and is cased. -/
def leadsToCased (text : List Char) : Bool :=
  match text.dropWhile caseIgnorable.contains with
  | [] => false
  | c :: _ => cased.contains c

/-- The lower case of a capital sigma between what stands before it, nearest first, and what stands
after it. -/
def lowerSigma (before after : List Char) : Char :=
  if leadsToCased before && !leadsToCased after then Char.ofNat 0x3C2 else Char.ofNat 0x3C3

/-- The lower case of a text that follows the given characters, nearest first. -/
def lowerAfter (before : List Char) : List Char → List Char
  | [] => []
  | c :: rest =>
    (if c.toNat = 0x3A3 then [lowerSigma before rest] else lowerChar c) ++
      lowerAfter (c :: before) rest

/-- The lower case of a text. -/
def lower (text : List Char) : List Char := lowerAfter [] text

/-- `lower` on strings. -/
def lowercase (text : String) : String := String.ofList (lower text.toList)

end RowFilter.Text
