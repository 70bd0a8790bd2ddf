import RowFilter.Json.Reader

/-!
# Reading values of an expected kind

Readers for texts, booleans, lists, records and optional values. Where something else stands, the
fault names it and what was expected; a text, number or keyword is read before it is refused, a list
or an object is refused at its bracket.
-/

namespace RowFilter.Json

open Text

/-- The stop for a value of the wrong kind, at the first symbol of the value. -/
def mismatch (expected : String) (text : Source) : Stop :=
  let refuse (found : Attempt (Found × Source)) : Stop :=
    match found with
    | .ok (found, rest) => .at (.wrongType found expected) rest 0
    | .error stop => stop
  let word (letters : List Char) (found : Found) (rest : Source) : Stop :=
    refuse ((keyword letters rest).map fun rest => (found, rest))
  match text with
  | [] => .at .endInValue [] 0
  | .malformed octets :: rest => .at .expectedValue (.malformed octets :: rest) 1
  | .char c :: rest =>
    match c with
    | 'n' => word ['u', 'l', 'l'] .null rest
    | 't' => word ['r', 'u', 'e'] (.boolean true) rest
    | 'f' => word ['a', 'l', 's', 'e'] (.boolean false) rest
    | '"' => refuse ((stringToken rest).map fun read => (.string read.1, read.2))
    | '-' => refuse ((numeral true rest).map fun read => (.number read.1, read.2))
    | '[' => .at (.wrongType .sequence expected) (.char c :: rest) 0
    | '{' => .at (.wrongType .map expected) (.char c :: rest) 0
    | _ =>
      if (digit? (.char c)).isSome then
        refuse ((numeral false (.char c :: rest)).map fun read => (.number read.1, read.2))
      else .at .expectedValue (.char c :: rest) 1

/-- Reads a text. -/
def expectString (text : Source) : Attempt (String × Source) :=
  match skipBlanks text with
  | .char '"' :: rest => stringToken rest
  | text => .error (mismatch "a string" text)

/-- Reads a boolean. -/
def expectBoolean (text : Source) : Attempt (Bool × Source) :=
  match skipBlanks text with
  | .char 't' :: rest => (keyword ['r', 'u', 'e'] rest).map fun rest => (true, rest)
  | .char 'f' :: rest => (keyword ['a', 'l', 's', 'e'] rest).map fun rest => (false, rest)
  | text => .error (mismatch "a boolean" text)

/-- Reads null, which here stands for a unit. -/
def expectUnit (text : Source) : Attempt Source :=
  match skipBlanks text with
  | .char 'n' :: rest => keyword ['u', 'l', 'l'] rest
  | text => .error (mismatch "unit" text)

/-- Reads null as nothing, and anything else as the reader does. -/
def expectOptional {α : Type} (reader : Source → Attempt (α × Source)) (text : Source) :
    Attempt (Option α × Source) :=
  match skipBlanks text with
  | .char 'n' :: rest => (keyword ['u', 'l', 'l'] rest).map fun rest => (none, rest)
  | text => (reader text).map fun read => (some read.1, read.2)

/-- Reads a list. -/
def expectList {α : Type} (expected : String) (item : Nat → Source → Attempt (α × Source))
    (depth : Nat)
    (text : Source) : Attempt (List α × Source) :=
  match skipBlanks text with
  | .char '[' :: rest =>
    nested depth (.char '[' :: rest) fun depth =>
      enclosed closeList (listItems (item depth) (rest.length + 1) true) rest
  | text => .error (mismatch expected text)

/-- Reads an object of plain values. -/
def expectObject (depth : Nat) (text : Source) : Attempt (List (String × Json) × Source) :=
  match skipBlanks text with
  | .char '{' :: rest =>
    nested depth (.char '{' :: rest) fun depth =>
      enclosed closeObject
        (objectMembers (plainMember (plain depth)) (rest.length + 1) true []) rest
  | text => .error (mismatch "a map" text)

/-- Reads a record from an object, by its members, or from a list, by position. What the members
collect is finished when the closing brace stands next. -/
def expectRecord {σ α : Type} (expected : String) (positional : Nat → Source → Attempt (α × Source))
    (member : Nat → String → σ → Source → Attempt (σ × Source)) (start : σ)
    (finish : σ → Except Fault α) (depth : Nat)
    (text : Source) : Attempt (α × Source) :=
  match skipBlanks text with
  | .char '[' :: rest =>
    nested depth (.char '[' :: rest) fun depth => enclosed closeList (positional depth) rest
  | .char '{' :: rest =>
    nested depth (.char '{' :: rest) fun depth =>
      let body (text : Source) : Attempt (α × Source) := do
        let (collected, rest) ← objectMembers (member depth) (text.length + 1) true start text
        match finish collected with
        | .ok record => return (record, rest)
        | .error fault => throw (.after fault rest)
      enclosed closeObject body rest
  | text => .error (mismatch expected text)

/-- Reads the value of a member that may stand only once, after its name. -/
def memberOnce {α : Type} (name : String) (seen : Option α) (reader : Source → Attempt (α × Source))
    (text : Source) :
    Attempt (α × Source) :=
  if seen.isSome then .error (.after (.duplicateField name) text)
  else do
    let rest ← colon text
    reader rest

/-- Reads the name of the only member of an object after its opening brace. -/
def onlyName (text : Source) : Attempt (String × Source) :=
  match skipBlanks text with
  | [] => .error (.at .endInObject [] 0)
  | .char '"' :: rest => stringToken rest
  | symbol :: rest =>
    .error (.at (if symbol = .char '}' then .expectedValue else .keyNotString) (symbol :: rest) 1)

/-- Reads one word of a fixed set, as a text or as the only name of an object whose value is
null. -/
def expectWord {α : Type} (known : List String) (word? : String → Option α) (depth : Nat)
    (text : Source) :
    Attempt (α × Source) :=
  let decide (name : String) (rest : Source) : Attempt (α × Source) :=
    match word? name with
    | some word => .ok (word, rest)
    | none => .error (.at (.unknownVariant name known) rest 0)
  match skipBlanks text with
  | [] => .error (.at .endInValue [] 0)
  | .char '"' :: rest => do
    let (name, rest) ← stringToken rest
    decide name rest
  | .char '{' :: rest =>
    nested depth (.char '{' :: rest) fun _ => do
      let (name, rest) ← onlyName rest
      let (word, rest) ← decide name rest
      let rest ← colon rest
      let rest ← expectUnit rest
      match skipBlanks rest with
      | [] => throw (.at .endInObject [] 0)
      | symbol :: after =>
        if symbol = .char '}' then return (word, after)
        else throw (.at .expectedValue (symbol :: after) 0)
  | symbol :: rest => .error (.at .expectedValue (symbol :: rest) 1)

/-- Reads rows: a list of objects. -/
def expectRecords (depth : Nat) (text : Source) : Attempt (List Record × Source) :=
  expectList "a sequence" expectObject depth text

/-- Reads a text as rows. -/
def parseRecords (text : String) : Except ReadError (List Record) :=
  document expectRecords (symbols text)

end RowFilter.Json
