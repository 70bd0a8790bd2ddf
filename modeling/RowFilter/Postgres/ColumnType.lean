import RowFilter.Number.Natural

/-!
# Types of parameters and columns

The database types that values are bound to and rows are read from. Any other type is known by its
name only.
-/

namespace RowFilter.Postgres

open Number

/-- The width of a whole number. -/
inductive IntegerWidth where
  /-- Two octets. -/
  | two
  /-- Four octets. -/
  | four
  /-- Eight octets. -/
  | eight
  deriving DecidableEq, Repr

/-- The number of octets. -/
def IntegerWidth.octets : IntegerWidth → Nat
  | .two => 2
  | .four => 4
  | .eight => 8

/-- Whether a whole number fits the width. -/
def IntegerWidth.fits (width : IntegerWidth) (n : Int) : Bool :=
  -twoTo (8 * width.octets - 1) ≤ n && n < twoTo (8 * width.octets - 1)

/-- The kinds of text. -/
inductive TextKind where
  /-- Text of any length. -/
  | text
  /-- Text of a limited length. -/
  | varchar
  /-- Text padded with blanks. -/
  | bpchar
  /-- Names of database objects. -/
  | name
  /-- Text whose type the server leaves open. -/
  | unknown
  deriving DecidableEq, Repr

/-- The name of a kind of text. -/
def TextKind.typeName : TextKind → String
  | .text => "text"
  | .varchar => "varchar"
  | .bpchar => "bpchar"
  | .name => "name"
  | .unknown => "unknown"

/-- A database type. -/
inductive ColumnType where
  /-- Booleans. -/
  | boolean
  /-- Whole numbers. -/
  | integer (width : IntegerWidth)
  /-- Numbers of 32 bits in binary floating point. -/
  | single
  /-- Doubles. -/
  | double
  /-- Texts. -/
  | text (kind : TextKind)
  /-- Identifiers of 128 bits. -/
  | uuid
  /-- Instants; a zoned one is shown in local time by the database. -/
  | timestamp (zoned : Bool)
  /-- Dates. -/
  | date
  /-- Documents, as text or in the database's own form. -/
  | document (binary : Bool)
  /-- Labels of a type of that name. -/
  | enumeration (name : String)
  /-- A type that is not supported. -/
  | other (name : String)
  deriving DecidableEq, Repr

namespace ColumnType

/-- The name of a type. -/
def name : ColumnType → String
  | .boolean => "bool"
  | .integer .two => "int2"
  | .integer .four => "int4"
  | .integer .eight => "int8"
  | .single => "float4"
  | .double => "float8"
  | .text kind => kind.typeName
  | .uuid => "uuid"
  | .timestamp true => "timestamptz"
  | .timestamp false => "timestamp"
  | .date => "date"
  | .document false => "json"
  | .document true => "jsonb"
  | .enumeration name => name
  | .other name => name

/-- The types that are supported, labels aside. -/
def supported : List ColumnType :=
  [.boolean, .integer .two, .integer .four, .integer .eight, .single, .double, .text .text,
   .text .varchar, .text .bpchar, .text .name, .text .unknown, .uuid, .timestamp true,
   .timestamp false, .date, .document false, .document true]

/-- The built-in type of a name. -/
def ofName (name : String) : ColumnType :=
  (supported.find? fun type => type.name == name).getD (.other name)

end ColumnType

end RowFilter.Postgres
