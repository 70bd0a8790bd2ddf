import RowFilter.Filter.Tree

/-!
# Filters as JSON values

A filter is written with its present buckets, and a condition with its value unless that is absent.
The names of the members come in their order, so the object is well formed.
-/

namespace RowFilter.Filter

/-- The members of a condition. -/
def Condition.toJson (condition : Condition) : Json :=
  .object ([("field", .string condition.field), ("operator", .string condition.operator.name)]
    ++ (condition.value.map fun value => ("value", value.toJson)).toList)

/-- The object of a group, given its buckets as values. -/
def groupObject (all any : Option (List Json)) : Json :=
  .object
    ((all.map fun items => ("and", .array items)).toList ++
      (any.map fun items => ("or", .array items)).toList)

/-- The value of a filter. -/
def Group.toJson (group : Group) : Json := group.fold Condition.toJson groupObject

/-- The compact text of a filter. -/
def Group.text (group : Group) : String := group.toJson.text

end RowFilter.Filter
