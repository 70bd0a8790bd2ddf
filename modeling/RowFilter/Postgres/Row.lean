import RowFilter.Calendar.Writer
import RowFilter.Json.Reader
import RowFilter.Number.BigEndian
import RowFilter.Postgres.Clock
import RowFilter.Postgres.ColumnType
import RowFilter.Postgres.Problem
import RowFilter.Uuid

/-!
# Rows as records

The columns of a row come as octets, or as nothing for null. Each is read by its type; a record
holds what was read by the name of the column. Numbers that are not finite are read as null, as they
have no place in a record.
-/

namespace RowFilter.Postgres

open Number

/-- A column of a result. -/
structure Column where
  /-- The name. -/
  name : String
  /-- The type. -/
  type : ColumnType
  deriving DecidableEq, Repr

namespace Column

/-- The octets, if they are so many. -/
def exactly (count : Nat) (octets : List UInt8) : Option (List UInt8) :=
  if octets.length = count then some octets else none

/-- The text of octets as a value. -/
def textOf? (octets : List UInt8) : Option Json := (Text.text? octets).map .string

/-- The document of octets. -/
def documentOf? (octets : List UInt8) : Option Json :=
  (Json.document Json.plain (Text.decode octets)).toOption

/-- The document of octets in the database's own form, which starts with its version. -/
def binaryDocumentOf? : List UInt8 → Option Json
  | version :: octets => if version = 1 then documentOf? octets else none
  | [] => none

/-- The whole number of octets of a width. -/
def integerOf? (width : IntegerWidth) (octets : List UInt8) : Option Int :=
  (exactly width.octets octets).map BigEndian.intOfOctets

/-- The value of octets of a supported type. -/
def valueOf? (octets : List UInt8) : ColumnType → Option Json
  | .boolean => (exactly 1 octets).map fun octets => .boolean (octets.any (· != 0))
  | .integer width => (integerOf? width octets).map .ofInt
  | .single =>
    (exactly 4 octets).map fun octets =>
      .ofDouble (.ofBinary32 (UInt32.ofNat (BigEndian.natOfOctets octets)))
  | .double =>
    (exactly 8 octets).map fun octets => .ofDouble ⟨UInt64.ofNat (BigEndian.natOfOctets octets)⟩
  | .text _ => textOf? octets
  | .uuid => (exactly 16 octets).map fun octets => .string (Uuid.textOfOctets octets)
  | .timestamp _ =>
    ((integerOf? .eight octets).bind Clock.instantOf?).map fun instant => .string instant.text
  | .date => ((integerOf? .four octets).bind Clock.dateOf?).map fun date => .string date.text
  | .document false => documentOf? octets
  | .document true => binaryDocumentOf? octets
  | .enumeration _ => textOf? octets
  | .other _ => none

/-- Whether columns of a type can be read. -/
def isReadable : ColumnType → Bool
  | .text .unknown => false
  | .other _ => false
  | _ => true

/-- The problem of a column, for the given reason. -/
def unreadable (column : Column) (reason : String) : Problem :=
  .decoding ("column '" ++ column.name ++ "': " ++ reason)

/-- The value of a column at a place in its row. -/
def read (column : Column) (index : Nat) (octets : Option (List UInt8)) : Except Problem Json :=
  if !isReadable column.type then
    .error (column.unreadable ("unsupported column type '" ++ column.type.name ++ "'"))
  else match octets with
    | none => .ok .null
    | some octets =>
      match valueOf? octets column.type with
      | some value => .ok value
      | none => .error (column.unreadable ("error deserializing column " ++ toString index))

end Column

/-- A row as the server sends it: the octets of each column, or nothing for null. -/
abbrev WireRow := List (Option (List UInt8))

/-- The record of a row from a place on, after what was read before it; of two columns with one name
the later counts. -/
def recordFrom (index : Nat) (record : Record) :
    List (Column × Option (List UInt8)) → Except Problem Record
  | [] => .ok record
  | (column, octets) :: rest => do
    let value ← column.read index octets
    recordFrom (index + 1) (Json.insertMember column.name value record) rest

/-- The record of a row. -/
def recordOf (columns : List Column) (row : WireRow) : Except Problem Record :=
  recordFrom 0 [] (columns.zip row)

/-- The records of rows, up to the first that cannot be read. -/
def recordsOf (columns : List Column) : List WireRow → Except Problem (List Record)
  | [] => .ok []
  | row :: rest => do
    let record ← recordOf columns row
    let records ← recordsOf columns rest
    return record :: records

end RowFilter.Postgres
