import RowFilter.Text.CharRanges

/-!
# White space

Two sets of blanks are told apart: the Unicode property `White_Space`, which trims dates and
settings, and the five ASCII blanks, which make a request body count as empty.
-/

namespace RowFilter.Text

/-- The characters with the property `White_Space`. -/
def whiteSpace : CharSet := ⟨
  [(0x09, 0x0D), (0x20, 0x20), (0x85, 0x85), (0xA0, 0xA0), (0x1680, 0x1680), (0x2000, 0x200A),
   (0x2028, 0x2029), (0x202F, 0x202F), (0x205F, 0x205F), (0x3000, 0x3000)]⟩

/-- Whether a character is white space. -/
def isBlank (c : Char) : Bool := whiteSpace.contains c

/-- The text without the white space it starts with. -/
def trimLeft (text : List Char) : List Char := text.dropWhile isBlank

/-- The text without the white space it ends with. -/
def trimRight (text : List Char) : List Char := (text.reverse.dropWhile isBlank).reverse

/-- The text without the white space at either end. -/
def trim (text : List Char) : List Char := trimRight (trimLeft text)

/-- `trim` on strings. -/
def trimmed (text : String) : String := String.ofList (trim text.toList)

/-- Whether an octet is an ASCII blank: space, tab, line feed, form feed or carriage return. -/
def isAsciiBlank (octet : UInt8) : Bool :=
  octet == 0x20 || octet == 0x09 || octet == 0x0A || octet == 0x0C || octet == 0x0D

end RowFilter.Text
