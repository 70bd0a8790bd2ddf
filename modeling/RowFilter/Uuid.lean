import RowFilter.Text.Hex

/-!
# Identifiers of 128 bits

The canonical spelling of an identifier groups its 32 hexadecimal digits by hyphens. Filters accept
that spelling for the versions one to five of the common variant; where an identifier is sent to a
database other spellings are read too.
-/

namespace RowFilter.Uuid

open Text

/-- Whether a character is a hexadecimal digit. -/
def isHex (c : Char) : Bool := (hexValue? c).isSome

/-- What stands at a place of the canonical spelling. -/
inductive Place where
  /-- Any hexadecimal digit. -/
  | digit
  /-- A hyphen. -/
  | hyphen
  /-- A version from one to five. -/
  | version
  /-- The digit that marks the variant. -/
  | variant

/-- Whether a character may stand at a place. -/
def Place.accepts : Place → Char → Bool
  | .digit, c => isHex c
  | .hyphen, c => c = '-'
  | .version, c => '1' ≤ c && c ≤ '5'
  | .variant, c => c = '8' || c = '9' || c = 'a' || c = 'b' || c = 'A' || c = 'B'

/-- The places of the canonical spelling. -/
def canonicalPlaces : List Place :=
  List.replicate 8 .digit ++ [.hyphen] ++ List.replicate 4 .digit ++ [.hyphen, .version] ++
    List.replicate 3 .digit
    ++ [.hyphen, .variant] ++ List.replicate 3 .digit ++ [.hyphen] ++ List.replicate 12 .digit

/-- Whether the characters fit the places one by one. -/
def fits : List Place → List Char → Bool
  | [], [] => true
  | place :: places, c :: rest => place.accepts c && fits places rest
  | _, _ => false

/-- Whether a text is the canonical spelling of an identifier of the versions one to five. -/
def isUuid (text : String) : Bool := fits canonicalPlaces text.toList

/-- The octets of 32 hexadecimal digits. -/
def simpleOctets? (text : List Char) : Option (List UInt8) :=
  if text.length = 32 then octetsOfHex? text else none

/-- The octets of digits grouped by hyphens, of any version. -/
def hyphenatedOctets? (text : List Char) : Option (List UInt8) :=
  let groups :=
    [text.take 8, (text.drop 9).take 4, (text.drop 14).take 4, (text.drop 19).take 4, text.drop 24]
  let hyphens := [text[8]?, text[13]?, text[18]?, text[23]?]
  if text.length = 36 && hyphens.all (· == some '-') then octetsOfHex? groups.flatten else none

/-- The octets of an identifier in any spelling: bare, grouped, grouped between braces, or grouped
after `urn:uuid:`. -/
def octets? (text : String) : Option (List UInt8) :=
  let chars := text.toList
  let urn := "urn:uuid:".toList
  if chars.length = 38 && chars.head? = some '\x7b' && chars.getLast? = some '\x7d' then
    hyphenatedOctets? (chars.drop 1).dropLast
  else if urn.isPrefixOf chars then hyphenatedOctets? (chars.drop urn.length)
  else (simpleOctets? chars).or (hyphenatedOctets? chars)

/-- The canonical spelling of sixteen octets, in lower case. -/
def textOfOctets (octets : List UInt8) : String :=
  let digits := octets.flatMap hexOctet
  String.ofList (digits.take 8 ++ '-' :: (digits.drop 8).take 4 ++ '-' :: (digits.drop 12).take 4
    ++ '-' :: (digits.drop 16).take 4 ++ '-' :: digits.drop 20)

end RowFilter.Uuid
