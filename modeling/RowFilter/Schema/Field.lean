import RowFilter.Calendar.Reader
import RowFilter.Filter.Value
import RowFilter.Filter.Operator
import RowFilter.Uuid

/-!
# Fields

What a schema says about one field of an entity: its type, the operators that conditions on it may
use, and whether it may stand in a filter at all.
-/

namespace RowFilter.Schema

open RowFilter.Filter

/-- The type of a field. -/
inductive FieldType where
  /-- Texts. -/
  | text
  /-- Finite numbers. -/
  | number
  /-- Booleans. -/
  | boolean
  /-- Dates and instants. -/
  | date
  /-- Labels, stored as texts; the store decides which there are. -/
  | enumeration
  /-- Identifiers of 128 bits. -/
  | uuid
  deriving DecidableEq, Repr

namespace FieldType

/-- Every type, in order. -/
def all : List FieldType := [.text, .number, .boolean, .date, .enumeration, .uuid]

/-- The name of a type in schemas and messages. -/
def name : FieldType → String
  | .text => "string"
  | .number => "number"
  | .boolean => "boolean"
  | .date => "date"
  | .enumeration => "enum"
  | .uuid => "uuid"

/-- The type of a name. -/
def ofName? (name : String) : Option FieldType := all.find? fun type => type.name == name

/-- The names of all types, in order. -/
def names : List String := all.map name

/-- Whether a single value is of the type. -/
def accepts : FieldType → Value → Bool
  | .text, value => value.text?.isSome
  | .enumeration, value => value.text?.isSome
  | .number, value => value.finite?.isSome
  | .boolean, .boolean _ => true
  | .boolean, _ => false
  | .date, value => (value.text?.bind Calendar.read?).isSome
  | .uuid, value => value.text?.any Uuid.isUuid

end FieldType

/-- A field of an entity. -/
structure Field where
  /-- The name. -/
  name : String
  /-- The type. -/
  type : FieldType
  /-- The operators that conditions may use, each once, in the order in which they were allowed. -/
  operators : List Operator := []
  /-- Whether the field may stand in a filter. -/
  filterable : Bool := true
  /-- The database type that labels are cast to. -/
  enumType : Option String := none
  deriving DecidableEq, Repr

namespace Field

/-- The operators with one more at the end, unless it is among them. -/
def addOperator (operators : List Operator) (operator : Operator) : List Operator :=
  if operators.contains operator then operators else operators ++ [operator]

/-- The field with more operators allowed. -/
def allowing (field : Field) (operators : List Operator) : Field :=
  { field with operators := operators.foldl addOperator field.operators }

/-- The field shut out of filters, with no operators. -/
def notFilterable (field : Field) : Field := { field with filterable := false, operators := [] }

/-- The field with its labels cast to a database type. -/
def castTo (field : Field) (enumType : String) : Field := { field with enumType := some enumType }

/-- Whether conditions may use the operator. -/
def allows (field : Field) (operator : Operator) : Bool := field.operators.contains operator

end Field

end RowFilter.Schema
