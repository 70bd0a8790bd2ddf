import RowFilter.Text.Hex
import RowFilter.Text.Utf8

/-!
# Form data

The part of a URL after its question mark holds names and values: pairs between ampersands, a name
and its value around the first equals sign. In both a plus stands for a space and a percent sign
with two hexadecimal digits for an octet; a percent sign without them stands for itself. What the
octets do not encode is replaced, so reading never fails.
-/

namespace RowFilter.Url.FormData

open Text

/-- Octets with plus signs read as spaces. -/
def plusToSpace (octets : List UInt8) : List UInt8 :=
  octets.map fun octet => if octet = 0x2B then 0x20 else octet

/-- The value of an octet that stands for a hexadecimal digit. -/
def hexOctetValue? (octet : UInt8) : Option Nat := hexValue? (Char.ofNat octet.toNat)

/-- Octets with every percent sign that two hexadecimal digits follow read, together with them, as
one octet. -/
def percentDecode : List UInt8 → List UInt8
  | [] => []
  | percent :: high :: low :: rest =>
    match percent == 0x25, hexOctetValue? high, hexOctetValue? low with
    | true, some h, some l => UInt8.ofNat (16 * h + l) :: percentDecode rest
    | _, _, _ => percent :: percentDecode (high :: low :: rest)
  | octet :: rest => octet :: percentDecode rest

/-- A name or a value as text. -/
def decodePart (octets : List UInt8) : String :=
  textWithReplacements (percentDecode (plusToSpace octets))

/-- The pieces between separators; there is always one more than there are separators. -/
def pieces (separator : UInt8) : List UInt8 → List (List UInt8)
  | [] => [[]]
  | octet :: rest =>
    if octet = separator then [] :: pieces separator rest
    else match pieces separator rest with
      | [] => [[octet]]
      | piece :: others => (octet :: piece) :: others

/-- The name and value of a pair; the value is empty if there is no equals sign. -/
def decodePair (octets : List UInt8) : String × String :=
  let (name, rest) := octets.span (· != 0x3D)
  (decodePart name, decodePart (rest.drop 1))

/-- The names and values of form data, in order; empty pieces are no pairs. -/
def pairs (text : String) : List (String × String) :=
  ((pieces 0x26 (encode text)).filter fun piece => !piece.isEmpty).map decodePair

end RowFilter.Url.FormData
