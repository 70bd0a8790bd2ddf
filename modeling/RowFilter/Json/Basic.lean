import RowFilter.Number.Double

/-!
# JSON values

A JSON value as filters, rows and documents use it. Numbers are whole numbers, kept exactly, or
doubles. The members of an object are kept in the order of their names, each name once; names are
ordered by code point.
-/

namespace RowFilter

open Number

/-- A number as it stands in a document: a whole number without fraction or exponent, or a
double. -/
inductive Json.Numeral where
  /-- A whole number. -/
  | integer (n : Int)
  /-- A double, which is finite in every value that was read. -/
  | double (x : Double)
  deriving DecidableEq, Repr

/-- The double nearest to the number. -/
def Json.Numeral.toDouble : Json.Numeral → Double
  | .integer n => .ofInt n
  | .double x => x

/-- A JSON value. -/
inductive Json where
  /-- The null value. -/
  | null
  /-- A boolean. -/
  | boolean (b : Bool)
  /-- A number. -/
  | number (n : Json.Numeral)
  /-- A text. -/
  | string (text : String)
  /-- Values in a row. -/
  | array (items : List Json)
  /-- Values by name. -/
  | object (members : List (String × Json))
  deriving Repr, BEq, Inhabited

/-- A row of a table: values by column, in the order of the column names. -/
abbrev Record := List (String × Json)

namespace Json

/-- The members with one more, at its place in the order; a member of that name is replaced. -/
def insertMember (name : String) (value : Json) : List (String × Json) → List (String × Json)
  | [] => [(name, value)]
  | (key, old) :: rest =>
    if name = key then (key, value) :: rest
    else if name < key then (name, value) :: (key, old) :: rest
    else (key, old) :: insertMember name value rest

/-- The members of a list of names and values; of several values for a name the last stays. -/
def membersOf (pairs : List (String × Json)) : List (String × Json) :=
  pairs.foldl (fun members pair => insertMember pair.1 pair.2 members) []

/-- The object with one member. -/
def single (name : String) (value : Json) : Json := .object [(name, value)]

/-- Whether the value is null. -/
def isNull : Json → Bool
  | .null => true
  | _ => false

/-- The whole number as a value. -/
def ofInt (n : Int) : Json := .number (.integer n)

/-- A finite double as a number, and null for every other double. -/
def ofDouble (x : Double) : Json := if x.isFinite then .number (.double x) else .null

end Json

end RowFilter
