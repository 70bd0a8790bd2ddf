import RowFilter.Json.Token

/-!
# Lists and objects of a document

Lists and objects are read alike whatever their items and members are, so the readers here take the
reader of an item or a member as an argument. Each takes a bound on the number of rounds, for which
the length of the text is enough.
-/

namespace RowFilter.Json

open Text

/-- What stands next in a list. -/
inductive NextItem where
  /-- The closing bracket. -/
  | close (text : Source)
  /-- An item. -/
  | item (text : Source)

/-- Looks for the next item of a list, past the comma before it unless it is the first. -/
def nextItem (first : Bool) (text : Source) : Attempt NextItem :=
  match skipBlanks text with
  | [] => .error (.at .endInList [] 0)
  | symbol :: rest =>
    if symbol = .char ']' then .ok (.close (symbol :: rest))
    else if first then .ok (.item (symbol :: rest))
    else if symbol = .char ',' then
      match skipBlanks rest with
      | [] => .error (.at .endInValue [] 0)
      | next :: after =>
        if next = .char ']' then .error (.at .trailingComma (next :: after) 1)
        else .ok (.item (next :: after))
    else .error (.at .expectedListEnd (symbol :: rest) 1)

/-- Reads the items of a list, up to its closing bracket. -/
def listItems {α : Type} (item : Source → Attempt (α × Source)) :
    Nat → Bool → Source → Attempt (List α × Source)
  | 0, _, text => .error (.at .endInList text 0)
  | bound + 1, first, text => do
    match ← nextItem first text with
    | .close rest => return ([], rest)
    | .item rest =>
      let (value, rest) ← item rest
      let (values, rest) ← listItems item bound false rest
      return (value :: values, rest)

/-- Reads the next item of a list of which the items are read one by one; none at the closing
bracket. -/
def itemOrEnd {α : Type} (item : Source → Attempt (α × Source)) (first : Bool) (text : Source) :
    Attempt (Option α × Source) := do
  match ← nextItem first text with
  | .close rest => return (none, rest)
  | .item rest =>
    let (value, rest) ← item rest
    return (some value, rest)

/-- What stands next in an object. -/
inductive NextMember where
  /-- The closing brace. -/
  | close (text : Source)
  /-- A name, after its opening quote. -/
  | name (text : Source)

/-- Looks for the next member of an object, past the comma before it unless it is the first. -/
def nextMember (first : Bool) (text : Source) : Attempt NextMember :=
  match skipBlanks text with
  | [] => .error (.at .endInObject [] 0)
  | symbol :: rest =>
    if symbol = .char '}' then .ok (.close (symbol :: rest))
    else if first then
      if symbol = .char '"' then .ok (.name rest) else .error (.at .keyNotString (symbol :: rest) 1)
    else if symbol = .char ',' then
      match skipBlanks rest with
      | [] => .error (.at .endInValue [] 0)
      | next :: after =>
        if next = .char '"' then .ok (.name after)
        else if next = .char '}' then .error (.at .trailingComma (next :: after) 1)
        else .error (.at .keyNotString (next :: after) 1)
    else .error (.at .expectedObjectEnd (symbol :: rest) 1)

/-- Reads the colon after a name. -/
def colon (text : Source) : Attempt Source :=
  match skipBlanks text with
  | [] => .error (.at .endInObject [] 0)
  | symbol :: rest =>
    if symbol = .char ':' then .ok rest else .error (.at .expectedColon (symbol :: rest) 1)

/-- Reads the members of an object, up to its closing brace. The reader of a member gets the name,
what was collected so far, and the text after the name. -/
def objectMembers {σ : Type} (member : String → σ → Source → Attempt (σ × Source)) :
    Nat → Bool → σ → Source → Attempt (σ × Source)
  | 0, _, _, text => .error (.at .endInObject text 0)
  | bound + 1, first, collected, text => do
    match ← nextMember first text with
    | .close rest => return (collected, rest)
    | .name rest =>
      let (name, rest) ← stringToken rest
      let (collected, rest) ← member name collected rest
      objectMembers member bound false collected rest

/-- An attempt to close a list or an object: what is wrong, if anything, and where the attempt
ended. -/
structure Closing where
  /-- What stands in place of the closing bracket or brace. -/
  fault : Option Fault
  /-- The text after the closing bracket or brace, or from what stands in its place. -/
  rest : Source

/-- Reads the closing bracket of a list; a comma is passed over to see what follows it. -/
def closeList (text : Source) : Closing :=
  match skipBlanks text with
  | [] => ⟨some .endInList, []⟩
  | symbol :: rest =>
    if symbol = .char ']' then ⟨none, rest⟩
    else if symbol = .char ',' then
      match skipBlanks rest with
      | next :: after =>
        ⟨some (if next = .char ']' then .trailingComma else .trailingText), next :: after⟩
      | [] => ⟨some .trailingText, []⟩
    else ⟨some .trailingText, symbol :: rest⟩

/-- Reads the closing brace of an object. -/
def closeObject (text : Source) : Closing :=
  match skipBlanks text with
  | [] => ⟨some .endInObject, []⟩
  | symbol :: rest =>
    if symbol = .char '}' then ⟨none, rest⟩
    else if symbol = .char ',' then ⟨some .trailingComma, symbol :: rest⟩
    else ⟨some .trailingText, symbol :: rest⟩

/-- Reads something and what closes it. A fault without a place is placed where the attempt to close
ended. -/
def enclosed {α : Type} (close : Source → Closing) (body : Source → Attempt (α × Source))
    (text : Source) :
    Attempt (α × Source) :=
  match body text with
  | .ok (value, rest) =>
    match close rest with
    | ⟨none, rest⟩ => .ok (value, rest)
    | ⟨some fault, rest⟩ => .error (.at fault rest 1)
  | .error stop => .error (stop.settle fun rest => (close rest).rest)

end RowFilter.Json
