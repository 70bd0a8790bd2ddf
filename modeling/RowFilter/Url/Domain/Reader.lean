import RowFilter.Text.MarkTable
import RowFilter.Url.Domain.Direction
import RowFilter.Url.Domain.Joiner
import RowFilter.Url.Domain.Mapping
import RowFilter.Url.Domain.Punycode

/-!
# Domain names

A domain name is labels between points. It is read as a plain name, of which every label has to be
well-formed: it may hold characters outside ASCII, as they are or written in ASCII characters after
a mark of four.
-/

namespace RowFilter.Url.Domain

open Text

/-- Whether no host may hold the character. -/
def isOutsideHost (c : Char) : Bool := "\x00\t\n\r #/:<>?@[\\]^|".toList.contains c

/-- Whether no domain name may hold the character. -/
def isOutsideDomain (c : Char) : Bool :=
  isOutsideHost c || c.toNat < 0x20 || c = '%' || c.toNat = 0x7F

/-- Whether a character is one of ASCII. -/
def isAscii (c : Char) : Bool := c.toNat < 0x80

/-- What a label written in ASCII characters starts with. -/
def encodedMark : List Char := ['x', 'n', '-', '-']

/-- The text that ASCII characters stand for, if it is one that could not be written plainer. There
is none if they hold no number, which shows in a hyphen at their end, or if there are too many. -/
def decodeLabel? (digits : List Char) : Option (List Char) :=
  if digits.getLast?.all (· = '-') || 2000 < digits.length then none
  else (Punycode.decode? digits).filter fun label =>
    plain? label = some label && !startsWith encodedMark label

/-- Whether a label may stand as it is: one with characters outside ASCII is not too long to be
written in ASCII. -/
def isPlainLabel (label : List Char) : Bool := label.all isAscii || label.length ≤ 1000

/-- The characters that a label stands for. -/
def readLabel? (label : List Char) : Option (List Char) :=
  if startsWith encodedMark label then decodeLabel? (label.drop encodedMark.length)
  else if isPlainLabel label then some label
  else none

/-- Whether a label is well-formed: it begins with no mark, and joiners stand only where they make a
difference. -/
def isWellFormed (label : List Char) : Bool := !label.head?.any isMark && joinersFit label

/-- Reads a domain name as a plain one. -/
def read? (text : List Char) : Option (List Char) := do
  let name ← plain? text
  let labels ← (name.splitOn '.').mapM readLabel?
  if name.any isOutsideDomain || !labels.all isWellFormed || !directionsFit labels then none
  else some name

end RowFilter.Url.Domain
