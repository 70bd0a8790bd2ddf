import RowFilter.Json.Writer
import RowFilter.Text.Joined

/-!
# Values of conditions

What a condition compares a field with: a plain value, a list of values, or a whole document. Whole
numbers that fit 64 bits with sign are kept exactly, all other numbers are doubles.
-/

namespace RowFilter.Filter

open Number Text

/-- A value that a caller supplies. -/
inductive Value where
  /-- The null value. -/
  | null
  /-- A boolean. -/
  | boolean (b : Bool)
  /-- A whole number of 64 bits. -/
  | integer (n : Int64)
  /-- A double. -/
  | double (x : Double)
  /-- A text. -/
  | text (s : String)
  /-- Values in a row. -/
  | list (items : List Value)
  /-- A document of any other kind. -/
  | document (json : Json)
  deriving Inhabited

namespace Value

/-- Whether the value is null. -/
def isNull : Value → Bool
  | .null => true
  | _ => false

/-- The text, if the value is one. -/
def text? : Value → Option String
  | .text s => some s
  | _ => none

/-- The items, if the value is a list. -/
def list? : Value → Option (List Value)
  | .list items => some items
  | _ => none

/-- The nearest double of a finite number. -/
def finite? : Value → Option Double
  | .integer n => some (.ofInt n.toInt)
  | .double x => if x.isFinite then some x else none
  | _ => none

/-- The kind of the value, for messages. -/
def kind : Value → String
  | .null => "null"
  | .boolean _ => "boolean"
  | .integer _ => "number"
  | .double _ => "number"
  | .text _ => "string"
  | .list _ => "array"
  | .document _ => "object"

mutual

/-- The value as a plain document; a double that is not finite becomes null. -/
def toJson : Value → Json
  | .null => .null
  | .boolean b => .boolean b
  | .integer n => .ofInt n.toInt
  | .double x => .ofDouble x
  | .text s => .string s
  | .list items => .array (toJsonItems items)
  | .document json => json

/-- The values as plain documents. -/
def toJsonItems : List Value → List Json
  | [] => []
  | item :: rest => toJson item :: toJsonItems rest

end

mutual

/-- The value as statements and messages show it: texts bare, the items of a list with commas
between them. -/
def display : Value → String
  | .null => "null"
  | .boolean b => if b then "true" else "false"
  | .integer n => toString n.toInt
  | .double x => x.display
  | .text s => s
  | .list items => joined "," (displayItems items)
  | .document json => json.text

/-- What the values are shown as. -/
def displayItems : List Value → List String
  | [] => []
  | item :: rest => display item :: displayItems rest

end

/-- The value of a whole number: exact within 64 bits with sign, the nearest double beyond. -/
def ofInt (n : Int) : Value :=
  if -twoTo 63 ≤ n && n < twoTo 63 then .integer (Int64.ofInt n) else .double (.ofInt n)

mutual

/-- The value that a document stands for: objects stay documents, everything else has its own
kind. -/
def ofJson : Json → Value
  | .null => .null
  | .boolean b => .boolean b
  | .number (.integer n) => ofInt n
  | .number (.double x) => .double x
  | .string s => .text s
  | .array items => .list (ofJsonItems items)
  | .object members => .document (.object members)

/-- The values that documents stand for. -/
def ofJsonItems : List Json → List Value
  | [] => []
  | item :: rest => ofJson item :: ofJsonItems rest

end

/-- The compact text of the value as a document. -/
def writtenText (value : Value) : String := value.toJson.text

end Value

end RowFilter.Filter
