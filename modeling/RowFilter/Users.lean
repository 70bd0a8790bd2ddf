import RowFilter.Schema.Registry
import RowFilter.Service

/-!
# The users entity

A small entity to try filters on. Its `password` can neither be filtered on nor returned.
-/

namespace RowFilter.Users

open RowFilter.Filter RowFilter.Schema

/-- The name of the entity and of its table. -/
def entity : String := "users"

/-- The columns that callers get. -/
def publicColumns : List String := ["id", "email", "name", "age", "role", "isActive", "createdAt"]

/-- The database type of roles. -/
def roleType : String := "role"

/-- The operators of texts. -/
def textOperators : List Operator := [.eq, .neq, .contains, .startsWith, .endsWith]

/-- The operators of ordered values. -/
def orderOperators : List Operator := [.eq, .neq, .gt, .lt, .gte, .lte, .between]

/-- The fields of the entity. -/
def fields : List Field :=
  [{ name := "id", type := .uuid, operators := [.eq, .neq, .member] },
   { name := "email", type := .text, operators := textOperators },
   { name := "name", type := .text, operators := textOperators },
   { name := "age", type := .number, operators := orderOperators ++ [.member] },
   { name := "role", type := .enumeration, operators := [.eq, .neq, .member],
     enumType := some roleType },
   { name := "isActive", type := .boolean, operators := [.eq, .neq] },
   { name := "createdAt", type := .date, operators := orderOperators },
   { name := "password", type := .text, filterable := false }]

/-- The registry of the entity. -/
def registry : Registry := ⟨fields, rfl⟩

/-- The target of a table, with the public columns. -/
def target (table : String) : Target := { Target.named table with projection := publicColumns }

/-- A row of the entity. -/
def user (id email name : String) (age : Int) (role : String) (isActive : Bool)
    (createdAt password : String) : Record :=
  [("age", .ofInt age), ("createdAt", .string createdAt), ("email", .string email),
   ("id", .string id), ("isActive", .boolean isActive), ("name", .string name),
   ("password", .string password), ("role", .string role)]

/-- The rows to begin with. -/
def rows : List Record :=
  [user "550e8400-e29b-41d4-a716-446655440001" "admin@example.com" "Admin User" 35 "admin" true
     "2024-01-15T10:30:00.000Z" "hashedPassword1",
   user "550e8400-e29b-41d4-a716-446655440002" "john.doe@example.com" "John Doe" 28 "user" true
     "2024-02-20T08:00:00.000Z" "hashedPassword2",
   user "550e8400-e29b-41d4-a716-446655440003" "jane.smith@example.com" "Jane Smith" 32
     "moderator" false "2024-03-05T14:45:00.000Z" "hashedPassword3",
   user "550e8400-e29b-41d4-a716-446655440004" "bob.wilson@example.com" "Bob Wilson" 45 "user" true
     "2024-04-10T09:15:00.000Z" "hashedPassword4",
   user "550e8400-e29b-41d4-a716-446655440005" "alice.brown@example.com" "Alice Brown" 29
     "admin" true "2024-05-25T16:20:00.000Z" "hashedPassword5"]

end RowFilter.Users
