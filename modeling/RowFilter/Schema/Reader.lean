import RowFilter.Json.Expected
import RowFilter.Json.Skip
import RowFilter.Schema.Registry

/-!
# Schemas as documents

A schema is a list of field records. A record names its field and type and says whether the field is
filterable; operators and a database type may be left out, and members of other names are skipped.
-/

namespace RowFilter.Schema

open RowFilter.Filter (Operator)
open Json (Attempt ReadError Source)

/-- The members of a field record read so far. -/
structure FieldParts where
  /-- The name. -/
  name : Option String := none
  /-- The type. -/
  type : Option FieldType := none
  /-- The operators. -/
  operators : Option (List Operator) := none
  /-- Whether the field may stand in a filter. -/
  filterable : Option Bool := none
  /-- The database type; null is not the same as a member left out. -/
  enumType : Option (Option String) := none

/-- The field of the parts, given its operators as they were listed. -/
def assemble (name : String) (type : FieldType) (operators : Option (List Operator))
    (filterable : Bool)
    (enumType : Option (Option String)) : Field :=
  { (Field.mk name type [] filterable enumType.join).allowing (operators.getD []) with }

/-- The field of the parts, if none that is required is missing. -/
def FieldParts.finish (parts : FieldParts) : Except Json.Fault Field :=
  match parts.name, parts.type, parts.filterable with
  | none, _, _ => .error (.missingField "name")
  | some _, none, _ => .error (.missingField "type")
  | some _, some _, none => .error (.missingField "filterable")
  | some name, some type, some filterable =>
    .ok (assemble name type parts.operators filterable parts.enumType)

/-- Reads a type. -/
def readType (depth : Nat) (text : Source) : Attempt (FieldType × Source) :=
  Json.expectWord FieldType.names FieldType.ofName? depth text

/-- The type of a word that was not read from a document, so that a fault has no place. -/
def FieldType.ofWord (word : String) : Except ReadError FieldType :=
  match FieldType.ofName? word with
  | some type => .ok type
  | none => .error ⟨.unknownVariant word FieldType.names, none⟩

/-- Reads an operator. -/
def readOperator (depth : Nat) (text : Source) : Attempt (Operator × Source) :=
  Json.expectWord Operator.names Operator.ofName? depth text

/-- Reads a list of operators. -/
def readOperators (depth : Nat) (text : Source) : Attempt (List Operator × Source) :=
  Json.expectList "a set" readOperator depth text

/-- Reads a member of a field record after its name. -/
def readFieldMember (depth : Nat) (name : String) (parts : FieldParts) (text : Source) :
    Attempt (FieldParts × Source) :=
  if name = "name" then do
    let (read, rest) ← Json.memberOnce name parts.name Json.expectString text
    return ({ parts with name := some read }, rest)
  else if name = "type" then do
    let (read, rest) ← Json.memberOnce name parts.type (readType depth) text
    return ({ parts with type := some read }, rest)
  else if name = "allowedOperators" then do
    let (read, rest) ← Json.memberOnce name parts.operators (readOperators depth) text
    return ({ parts with operators := some read }, rest)
  else if name = "filterable" then do
    let (read, rest) ← Json.memberOnce name parts.filterable Json.expectBoolean text
    return ({ parts with filterable := some read }, rest)
  else if name = "enumTypeName" then do
    let (read, rest) ←
      Json.memberOnce name parts.enumType (Json.expectOptional Json.expectString) text
    return ({ parts with enumType := some read }, rest)
  else do
    let rest ← Json.colon text
    let rest ← Json.skip rest
    return (parts, rest)

/-- What a list by position must have. -/
def fiveElements : String := "struct FieldSchema with 5 elements"

/-- Reads a required element of a list by position. -/
def readElement {α : Type} (index : Nat) (reader : Source → Attempt (α × Source)) (text : Source) :
    Attempt (α × Source) := do
  match ← Json.itemOrEnd reader (index == 0) text with
  | (some value, rest) => return (value, rest)
  | (none, rest) => throw (.after (.wrongLength index fiveElements) rest)

/-- Reads a field record by position. -/
def readFieldItems (depth : Nat) (text : Source) : Attempt (Field × Source) := do
  let (name, rest) ← readElement 0 Json.expectString text
  let (type, rest) ← readElement 1 (readType depth) rest
  let (operators, rest) ← Json.itemOrEnd (readOperators depth) false rest
  let (filterable, rest) ← readElement 3 Json.expectBoolean rest
  let (enumType, rest) ← Json.itemOrEnd (Json.expectOptional Json.expectString) false rest
  return (assemble name type operators filterable enumType, rest)

/-- Reads a field record. -/
def readField (depth : Nat) (text : Source) : Attempt (Field × Source) :=
  Json.expectRecord "struct FieldSchema" readFieldItems readFieldMember {} FieldParts.finish
    depth text

/-- Reads a whole text as a list of field records. -/
def parseFields (text : String) : Except ReadError (List Field) :=
  Json.document (Json.expectList "a sequence" readField) (Text.symbols text)

/-- Reads a whole text as a registry. -/
def Registry.parse (text : String) : Except Failure Registry :=
  match parseFields text with
  | .ok fields => Registry.ofFields fields
  | .error error =>
    .error
      ((Failure.invalidConfiguration ("invalid filter schema: " ++ error.message)).withSource
        error.message)

/-- The members of a field record, in the order of declaration. -/
def Field.members (field : Field) : List (String × Json) :=
  [("name", .string field.name), ("type", .string field.type.name),
    ("allowedOperators", .array (field.operators.map fun operator => .string operator.name)),
    ("filterable", .boolean field.filterable)]
    ++ (field.enumType.map fun name => ("enumTypeName", Json.string name)).toList

/-- The compact text of a field record; its members keep the order of declaration. -/
def Field.text (field : Field) : String :=
  String.ofList (Json.objectChars (field.members.map fun member => (member.1, member.2.chars)))

end RowFilter.Schema
