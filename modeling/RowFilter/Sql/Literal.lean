import RowFilter.Calendar.Reader
import RowFilter.Calendar.Writer
import RowFilter.Schema.Registry
import RowFilter.Sql.Quoting

/-!
# Literals

A value written into a statement, as its field's type demands: texts, dates and identifiers between
quotes, numbers and booleans bare, labels cast to the field's database type if it has one.
-/

namespace RowFilter.Sql

open RowFilter.Filter RowFilter.Schema

/-- A value in a statement. -/
inductive Literal where
  /-- A text between quotes. -/
  | text (s : String)
  /-- A whole number. -/
  | integer (n : Int64)
  /-- A finite double. -/
  | double (x : Number.Double)
  /-- A boolean. -/
  | boolean (b : Bool)
  /-- A label cast to a database type. -/
  | cast (label type : String)

/-- The text of a literal. -/
def Literal.write : Literal → String
  | .text s => textLiteral s
  | .integer n => toString n.toInt
  | .double x => x.display
  | .boolean b => if b then "true" else "false"
  | .cast label type => textLiteral label ++ "::" ++ type

/-- The kind of value that a type wants, for messages. -/
def expectedKind : FieldType → String
  | .text => "string"
  | .number => "number"
  | .boolean => "boolean"
  | .date => "date"
  | .enumeration => "enum"
  | .uuid => "UUID"

/-- The literal of a label. -/
def labelLiteral (enumType : Option String) (label : String) : Literal :=
  match enumType with
  | some type => .cast label type
  | none => .text label

/-- The literal of a single value of a field, if it is of the field's type. Every single value can
be a text. -/
def literal? (field : Field) (value : Value) : Option Literal :=
  match field.type, value with
  | .text, .list _ => none
  | .text, .document _ => none
  | .text, scalar => some (.text scalar.display)
  | .number, .integer n => some (.integer n)
  | .number, .double x => if x.isFinite then some (.double x) else none
  | .number, _ => none
  | .boolean, .boolean b => some (.boolean b)
  | .boolean, _ => none
  | .date, value => (value.text?.bind Calendar.read?).map fun instant => .text instant.text
  | .uuid, value => (value.text?.filter Uuid.isUuid).map .text
  | .enumeration, value => value.text?.map (labelLiteral field.enumType)

/-- The literal of a single value of a field. -/
def literal (field : Field) (value : Value) : Except Failure Literal :=
  match literal? field value with
  | some literal => .ok literal
  | none =>
    .error (.invalidValue field.name
      ("Invalid " ++ expectedKind field.type ++ " value: " ++ value.display))

end RowFilter.Sql
