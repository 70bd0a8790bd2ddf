import RowFilter.Failure
import RowFilter.Number.Reading
import RowFilter.Text.Blank
import RowFilter.Text.Lowercase

/-!
# Named variables

Settings are read from named variables. A variable that holds only white space counts as unset
wherever its value is used; numbers are read without the white space around them.
-/

namespace RowFilter

open Number

/-- Variables by name; of several values for a name the last counts. -/
structure Variables where
  /-- Names and values, in the order in which they were set. -/
  pairs : List (String × String) := []

namespace Variables

/-- The value of a variable. -/
def get? (vars : Variables) (name : String) : Option String := vars.pairs.reverse.lookup name

/-- Whether a variable is set. -/
def contains (vars : Variables) (name : String) : Bool := (vars.get? name).isSome

/-- The value of a variable that holds more than white space. -/
def nonBlank? (vars : Variables) (name : String) : Option String :=
  (vars.get? name).filter fun value => !(Text.trim value.toList).isEmpty

/-- The value of a variable, or a default if it is unset. -/
def getOr (vars : Variables) (name default : String) : String := (vars.nonBlank? name).getD default

/-- The value of a variable that must be set. -/
def require (vars : Variables) (name : String) : Except Failure String :=
  match vars.nonBlank? name with
  | some value => .ok value
  | none => .error (.missingConfiguration name)

/-- The failure of a variable whose value cannot be read. -/
def unreadable (name raw : String) (fault : ReadFault) : Failure :=
  .invalidConfiguration (name ++ " has invalid value `" ++ raw ++ "`: " ++ fault.message)

/-- The value of a variable as a reader reads it, nothing if it is unset. -/
def parse? {α : Type} (vars : Variables) (name : String) (reader : String → Except ReadFault α) :
    Except Failure (Option α) :=
  match vars.nonBlank? name with
  | none => .ok none
  | some raw =>
    match reader (Text.trimmed raw) with
    | .ok value => .ok (some value)
    | .error fault => .error (unreadable name raw fault)

/-- Whether a variable is a flag that is set. -/
def flag (vars : Variables) (name : String) : Bool :=
  (vars.get? name).any fun value => ["true", "1", "yes"].contains (Text.lowercase value)

end Variables

end RowFilter
