import RowFilter.Text.Hex
import RowFilter.Text.Utf8

/-!
# Percent-encoding

The parts of a URL are kept as they are written, save for characters that may not stand there: each
octet of such a character is written as a percent sign and two digits. Which characters may not
stand differs from part to part.
-/

namespace RowFilter.Url

open Text

/-- Whether a character is a control character or outside ASCII. -/
def isControl (c : Char) : Bool := c.toNat < 0x20 || 0x7F ≤ c.toNat

/-- Whether a character may not stand in a path. -/
def isOutsidePath (c : Char) : Bool := isControl c || " \"#<>?`\x7b\x7d".toList.contains c

/-- Whether a character may not stand in a user name or a password. -/
def isOutsideUserinfo (c : Char) : Bool := isOutsidePath c || "/:;=@[\\]^|".toList.contains c

/-- An octet as a percent sign and two digits in upper case. -/
def percentOctet (octet : UInt8) : List Char := '%' :: (hexOctet octet).map Char.toUpper

/-- A character, encoded if it may not stand. -/
def encodeCharIf (outside : Char → Bool) (c : Char) : List Char :=
  if outside c then (encodeChar c).flatMap percentOctet else [c]

/-- The characters with those encoded that may not stand. -/
def encodeIf (outside : Char → Bool) (text : List Char) : List Char :=
  text.flatMap (encodeCharIf outside)

end RowFilter.Url
