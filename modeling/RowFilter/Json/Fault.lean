import RowFilter.Json.Writer
import RowFilter.Text.Joined
import RowFilter.Text.Quoted

/-!
# Why a document cannot be read

The faults of a text that is no JSON, and of JSON that is not what a reader asked for, with their
wording.
-/

namespace RowFilter.Json

open Text

/-- What stands in a document where something else was expected. -/
inductive Found where
  /-- The null value. -/
  | null
  /-- A boolean. -/
  | boolean (b : Bool)
  /-- A number. -/
  | number (n : Numeral)
  /-- A text. -/
  | string (text : String)
  /-- Values in a row. -/
  | sequence
  /-- Values by name. -/
  | map
  deriving DecidableEq, Repr

/-- What a value is, for a message. -/
def Found.of : Json → Found
  | .null => .null
  | .boolean b => .boolean b
  | .number n => .number n
  | .string text => .string text
  | .array _ => .sequence
  | .object _ => .map

/-- The wording of what was found. -/
def Found.message : Found → String
  | .null => "null"
  | .boolean b => "boolean `" ++ (if b then "true" else "false") ++ "`"
  | .number (.integer n) => "integer `" ++ String.ofList (integerChars n) ++ "`"
  | .number (.double x) => "floating point `" ++ String.ofList (numeralChars (.double x)) ++ "`"
  | .string text => "string " ++ quoted text
  | .sequence => "sequence"
  | .map => "map"

/-- Why a document cannot be read. -/
inductive Fault where
  /-- The text ends where a value should stand or go on. -/
  | endInValue
  /-- The text ends in a list. -/
  | endInList
  /-- The text ends in an object. -/
  | endInObject
  /-- The text ends between quotes. -/
  | endInString
  /-- No colon after a name. -/
  | expectedColon
  /-- Neither comma nor bracket after an item. -/
  | expectedListEnd
  /-- Neither comma nor brace after a member. -/
  | expectedObjectEnd
  /-- A word that is none of the three keywords. -/
  | expectedKeyword
  /-- A character that starts no value. -/
  | expectedValue
  /-- A backslash with something that is no escape. -/
  | badEscape
  /-- A number that is not well formed. -/
  | badNumber
  /-- A number beyond the finite doubles. -/
  | numberOutOfRange
  /-- Octets between quotes that encode no characters. -/
  | badCodePoint
  /-- A control character between quotes. -/
  | controlCharacter
  /-- A member whose name is not quoted. -/
  | keyNotString
  /-- Half of a surrogate pair with a wrong other half. -/
  | loneSurrogate
  /-- Half of a surrogate pair without an escape after it. -/
  | brokenSurrogate
  /-- A comma before a closing bracket or brace. -/
  | trailingComma
  /-- Something after the end of what was read. -/
  | trailingText
  /-- Lists and objects nested too deeply. -/
  | tooDeep
  /-- A value of the wrong kind. -/
  | wrongType (found : Found) (expected : String)
  /-- A value of the right kind that is not one of the expected. -/
  | wrongValue (found : Found) (expected : String)
  /-- A list of the wrong length. -/
  | wrongLength (length : Nat) (expected : String)
  /-- A member that the record does not have. -/
  | unknownField (name : String) (known : List String)
  /-- A word that is none of a fixed set. -/
  | unknownVariant (name : String) (known : List String)
  /-- A member that the record must have. -/
  | missingField (name : String)
  /-- A member that stands twice. -/
  | duplicateField (name : String)
  deriving DecidableEq, Repr

/-- Names as alternatives: `a`, or `a` or `b`, or one of several. -/
def alternatives : List String → String
  | [] => ""
  | [a] => "`" ++ a ++ "`"
  | [a, b] => "`" ++ a ++ "` or `" ++ b ++ "`"
  | names => "one of " ++ joined ", " (names.map fun name => "`" ++ name ++ "`")

/-- The wording of a fault. -/
def Fault.message : Fault → String
  | .endInValue => "EOF while parsing a value"
  | .endInList => "EOF while parsing a list"
  | .endInObject => "EOF while parsing an object"
  | .endInString => "EOF while parsing a string"
  | .expectedColon => "expected `:`"
  | .expectedListEnd => "expected `,` or `]`"
  | .expectedObjectEnd => "expected `,` or `\x7d`"
  | .expectedKeyword => "expected ident"
  | .expectedValue => "expected value"
  | .badEscape => "invalid escape"
  | .badNumber => "invalid number"
  | .numberOutOfRange => "number out of range"
  | .badCodePoint => "invalid unicode code point"
  | .controlCharacter => "control character (\\u0000-\\u001F) found while parsing a string"
  | .keyNotString => "key must be a string"
  | .loneSurrogate => "lone leading surrogate in hex escape"
  | .brokenSurrogate => "unexpected end of hex escape"
  | .trailingComma => "trailing comma"
  | .trailingText => "trailing characters"
  | .tooDeep => "recursion limit exceeded"
  | .wrongType found expected => "invalid type: " ++ found.message ++ ", expected " ++ expected
  | .wrongValue found expected => "invalid value: " ++ found.message ++ ", expected " ++ expected
  | .wrongLength length expected =>
    "invalid length " ++ toString length ++ ", expected " ++ expected
  | .unknownField name known => "unknown field `" ++ name ++ "`, expected " ++ alternatives known
  | .unknownVariant name known =>
    "unknown variant `" ++ name ++ "`, expected " ++ alternatives known
  | .missingField name => "missing field `" ++ name ++ "`"
  | .duplicateField name => "duplicate field `" ++ name ++ "`"

end RowFilter.Json
