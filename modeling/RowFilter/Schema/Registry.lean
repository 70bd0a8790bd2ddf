import RowFilter.Failure
import RowFilter.Schema.Field
import RowFilter.TypeName

/-!
# Registries

A registry is the schema of an entity: its fields in the order in which they were declared, no two
of one name, and every database type that labels are cast to a plain type name. Only a list of
fields that passes these checks is one.
-/

namespace RowFilter.Schema

/-- The failure of a name that stands twice. -/
def duplicateField (name : String) : Failure :=
  .invalidConfiguration ("duplicate field `" ++ name ++ "` in filter schema")

/-- The failure of a database type that is no type name. -/
def badEnumType (field enumType : String) : Failure :=
  (Failure.invalidConfiguration
    ("invalid enum type `" ++ enumType ++ "` for field `" ++ field ++ "`")).withField field

/-- The database type of a field, if it is no type name. -/
def badEnumType? (field : Field) : Option String :=
  field.enumType.filter fun name => !TypeName.isTypeName name

/-- Checks one field after others. -/
def checkField (earlier : List Field) (field : Field) : Except Failure Unit :=
  if earlier.any fun other => other.name == field.name then .error (duplicateField field.name)
  else match badEnumType? field with
    | some enumType => .error (badEnumType field.name enumType)
    | none => .ok ()

/-- Checks fields one by one after others. -/
def checkFields (earlier : List Field) : List Field → Except Failure Unit
  | [] => .ok ()
  | field :: rest => do
    checkField earlier field
    checkFields (earlier ++ [field]) rest

/-- The fields of an entity, in order. -/
structure Registry where
  /-- The fields. -/
  fields : List Field
  /-- They pass the checks. -/
  checked : checkFields [] fields = .ok ()
  deriving Repr

namespace Registry

/-- The registry of a list of fields. -/
def ofFields (fields : List Field) : Except Failure Registry :=
  match checked : checkFields [] fields with
  | .ok () => .ok ⟨fields, checked⟩
  | .error failure => .error failure

/-- The field of a name. -/
def find? (registry : Registry) (name : String) : Option Field :=
  registry.fields.find? fun field => field.name == name

/-- Whether there is a field of the name. -/
def contains (registry : Registry) (name : String) : Bool := (registry.find? name).isSome

/-- The fields that may stand in a filter. -/
def filterable (registry : Registry) : List Field := registry.fields.filter (·.filterable)

/-- The names of all fields, in order. -/
def names (registry : Registry) : List String := registry.fields.map (·.name)

/-- The number of fields. -/
def size (registry : Registry) : Nat := registry.fields.length

end Registry

end RowFilter.Schema
