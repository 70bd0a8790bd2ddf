import RowFilter.Filter.Tree
import RowFilter.Json.Fault

/-!
# Filters from JSON values

A value at the place of a node is a condition if it is an object with a member `field`, and a group
otherwise: an object with the members `and` and `or`, or a list of at most these two by position.
Whatever does not fit is a fault, so that a misspelt name never turns into a group that holds for
every row.
-/

namespace RowFilter.Filter

open Json (Fault Found)

/-- The names of the members of a condition. -/
def conditionFields : List String := ["field", "operator", "value"]

/-- The names of the members of a group. -/
def groupFields : List String := ["and", "or"]

/-- What a list by position may not exceed. -/
def fewerElements : String := "fewer elements in array"

/-- The text, if the value is one. -/
def stringOfJson : Json → Except Fault String
  | .string text => .ok text
  | other => .error (.wrongType (.of other) "a string")

/-- The operator of a name. -/
def operatorOfName (name : String) : Except Fault Operator :=
  match Operator.ofName? name with
  | some operator => .ok operator
  | none => .error (.unknownVariant name Operator.names)

/-- The operator of a value: its name, or an object with its name and null. -/
def operatorOfJson : Json → Except Fault Operator
  | .string name => operatorOfName name
  | .object [(name, value)] => do
    let operator ← operatorOfName name
    if value.isNull then return operator else throw (.wrongType (.of value) "unit")
  | .object _ => .error (.wrongValue .map "map with a single key")
  | other => .error (.wrongType (.of other) "string or map")

/-- The members of a condition read so far. -/
structure ConditionParts where
  /-- The field. -/
  field : Option String := none
  /-- The operator. -/
  operator : Option Operator := none
  /-- The value. -/
  value : Option Value := none

/-- The parts with one more member. -/
def ConditionParts.add (parts : ConditionParts) (name : String) (value : Json) :
    Except Fault ConditionParts :=
  if name = "field" then (stringOfJson value).map fun field => { parts with field := some field }
  else if name = "operator" then (operatorOfJson value).map fun operator =>
    { parts with operator := some operator }
  else if name = "value" then .ok { parts with value := some (.ofJson value) }
  else .error (.unknownField name conditionFields)

/-- The condition of the parts, if none that is required is missing. -/
def ConditionParts.finish (parts : ConditionParts) : Except Fault Condition :=
  match parts.field, parts.operator with
  | none, _ => .error (.missingField "field")
  | some _, none => .error (.missingField "operator")
  | some field, some operator => .ok ⟨field, operator, parts.value⟩

/-- The condition of the members of an object. -/
def conditionOfMembers (members : List (String × Json)) : Except Fault Condition := do
  let parts ← members.foldlM (fun parts member => ConditionParts.add parts member.1 member.2) {}
  parts.finish

/-- Whether an object is meant as a condition. -/
def isCondition (members : List (String × Json)) : Bool := (members.lookup "field").isSome

mutual

/-- The node of a value. -/
def nodeOfJson : Json → Except Fault Node
  | .object members =>
    if isCondition members then (conditionOfMembers members).map .condition
    else groupOfMembers none none members
  | .array items => groupOfItems items
  | other => .error (.wrongType (.of other) "struct FilterGroup")

/-- The group of the members of an object, after buckets that were read already. -/
def groupOfMembers (all any : Option (List Node)) : List (String × Json) → Except Fault Node
  | [] => .ok (.group all any)
  | (name, value) :: rest =>
    if name = "and" then do
      let all ← bucketOfJson value
      groupOfMembers all any rest
    else if name = "or" then do
      let any ← bucketOfJson value
      groupOfMembers all any rest
    else .error (.unknownField name groupFields)

/-- The group of a list: its buckets by position. -/
def groupOfItems : List Json → Except Fault Node
  | [] => .ok (.group none none)
  | [all] => do
    let all ← bucketOfJson all
    return .group all none
  | all :: any :: rest => do
    let all ← bucketOfJson all
    let any ← bucketOfJson any
    if rest.isEmpty then return .group all any
    else throw (.wrongLength (rest.length + 2) fewerElements)

/-- The bucket of a value: absent for null, the nodes of a list. -/
def bucketOfJson : Json → Except Fault (Option (List Node))
  | .null => .ok none
  | .array items => do
    let nodes ← nodesOfItems items
    return some nodes
  | other => .error (.wrongType (.of other) "a sequence")

/-- The nodes of values. -/
def nodesOfItems : List Json → Except Fault (List Node)
  | [] => .ok []
  | item :: rest => do
    let node ← nodeOfJson item
    let nodes ← nodesOfItems rest
    return node :: nodes

end

end RowFilter.Filter
