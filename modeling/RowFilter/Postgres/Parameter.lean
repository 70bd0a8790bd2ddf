import RowFilter.Calendar.Reader
import RowFilter.Filter.Value
import RowFilter.Number.BigEndian
import RowFilter.Postgres.Clock
import RowFilter.Postgres.ColumnType
import RowFilter.Postgres.Problem
import RowFilter.Text.Utf8
import RowFilter.Uuid

/-!
# Binding values to parameters

The values of a filter have no database types; a prepared statement says which type each of its
parameters has, and each value is converted to that type or refused. Null fits every type. A bound
value is sent as octets.
-/

namespace RowFilter.Postgres

open RowFilter.Calendar RowFilter.Filter RowFilter.Number

/-- A value bound to a parameter. -/
inductive Parameter where
  /-- The null value of any type. -/
  | null
  /-- A boolean. -/
  | boolean (b : Bool)
  /-- A whole number of a width. -/
  | integer (width : IntegerWidth) (n : Int)
  /-- The bits of a number of 32 bits in binary floating point. -/
  | single (bits : UInt32)
  /-- A double. -/
  | double (x : Double)
  /-- A text, which may be a label. -/
  | text (s : String)
  /-- The octets of an identifier. -/
  | uuid (octets : List UInt8)
  /-- Microseconds since the start of 2000. -/
  | timestamp (micros : Int)
  /-- Days since the start of 2000. -/
  | date (days : Int)
  /-- A document, as text or in the database's own form. -/
  | document (binary : Bool) (json : Json)

namespace Parameter

/-- The octets of a parameter; null has none. -/
def octets? : Parameter → Option (List UInt8)
  | .null => none
  | .boolean b => some [if b then 1 else 0]
  | .integer width n => some (BigEndian.octetsOfInt width.octets n)
  | .single bits => some (BigEndian.octetsOfNat 4 bits.toNat)
  | .double x => some (BigEndian.octetsOfNat 8 x.bits.toNat)
  | .text s => some (Text.encode s)
  | .uuid octets => some octets
  | .timestamp micros => some (BigEndian.octetsOfInt 8 micros)
  | .date days => some (BigEndian.octetsOfInt 4 days)
  | .document false json => some (Text.encode json.text)
  | .document true json => some (1 :: Text.encode json.text)

/-- The problem of a value that does not fit a type. -/
def mismatch (value : Value) (type : ColumnType) : Problem :=
  .conversion ("cannot bind " ++ value.kind ++ " value '" ++ value.display ++ "' as " ++ type.name)

/-- The problem of a type that no value can be bound to. -/
def unsupported (type : ColumnType) : Problem :=
  .conversion ("unsupported parameter type '" ++ type.name ++ "'")

/-- The nearest whole number of 64 bits. -/
def clampedTo64 (n : Int) : Int := max (-twoTo 63) (min n (twoTo 63 - 1))

/-- The whole number of a value, within 64 bits. -/
def whole? : Value → Option Int
  | .integer n => some n.toInt
  | .double x => x.whole?.map clampedTo64
  | _ => none

/-- The instant of a value. -/
def instant? (value : Value) : Option Instant := value.text?.bind Calendar.read?

/-- The text that is sent for a value of a text type: what is no text is sent as it is shown. -/
def sentText (value : Value) : String := value.text?.getD value.display

/-- The parameter of a value that is not null, if it fits; types that are not supported fit no
value. -/
def ofValue? (value : Value) : ColumnType → Option Parameter
  | .boolean =>
    match value with
    | .boolean b => some (.boolean b)
    | _ => none
  | .integer width => ((whole? value).filter width.fits).map (.integer width)
  | .single => value.finite?.map fun x => .single x.toBinary32
  | .double => value.finite?.map .double
  | .text _ => some (.text (sentText value))
  | .uuid => (value.text?.bind Uuid.octets?).map .uuid
  | .timestamp _ => (instant? value).map fun instant => .timestamp (Clock.microsOf instant)
  | .date => (instant? value).map fun instant => .date (Clock.daysOf instant.date)
  | .document binary => some (.document binary value.toJson)
  | .enumeration _ => value.text?.map .text
  | .other _ => none

/-- The problem of a value that does not fit a type, or of the type itself. -/
def refusal (value : Value) (type : ColumnType) : Problem :=
  match type with
  | .other _ => unsupported type
  | _ => mismatch value type

/-- Binds a value to a parameter of a type. -/
def bind (value : Value) (type : ColumnType) : Except Problem Parameter :=
  if value.isNull then .ok .null
  else match ofValue? value type with
    | some parameter => .ok parameter
    | none => .error (refusal value type)

/-- Binds values one by one. -/
def bindEach : List (Value × ColumnType) → Except Problem (List Parameter)
  | [] => .ok []
  | (value, type) :: rest => do
    let parameter ← bind value type
    let parameters ← bindEach rest
    return parameter :: parameters

/-- Binds values to the parameters of a statement, which must be as many. -/
def bindAll (values : List Value) (types : List ColumnType) : Except Problem (List Parameter) :=
  if values.length = types.length then bindEach (values.zip types)
  else .error (.conversion ("statement expects " ++ toString types.length ++ " parameters, got "
    ++ toString values.length))

/-- The octets of a label, which only a type of labels takes. -/
def labelOctets (label : String) (type : ColumnType) : Except String (List UInt8) :=
  match type with
  | .enumeration _ => .ok (Text.encode label)
  | _ =>
    .error ("cannot convert between the Rust type `sieve_postgres::types::EnumLabel` " ++
      "and the Postgres type `" ++ type.name ++ "`")

end Parameter

end RowFilter.Postgres
