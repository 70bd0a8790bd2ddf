import RowFilter.Json.Collection

/-!
# Reading JSON values

Reading a value, and reading a whole document. Lists and objects may be nested 127 deep; the first
bracket or brace beyond that is a fault.
-/

namespace RowFilter.Json

open Text

/-- How deeply lists and objects may be nested. -/
def greatestDepth : Nat := 127

/-- Reads a value after its opening bracket or brace at the given text, if it may be nested so
deeply. -/
def nested {α : Type} (depth : Nat) (text : Source) (body : Nat → Attempt (α × Source)) :
    Attempt (α × Source) :=
  match depth with
  | 0 => .error (.at .tooDeep text 1)
  | depth + 1 => body depth

/-- Reads a member of an object of plain values. -/
def plainMember (value : Source → Attempt (Json × Source)) (name : String)
    (members : List (String × Json))
    (text : Source) : Attempt (List (String × Json) × Source) := do
  let rest ← colon text
  let (read, rest) ← value rest
  return (insertMember name read members, rest)

/-- Reads a value. The first argument bounds the steps, for which one more than the length of the
text is enough; the second is how many lists and objects may still be opened inside one another. -/
def value : Nat → Nat → Source → Attempt (Json × Source)
  | 0, _, text => .error (.at .endInValue text 0)
  | bound + 1, depth, text =>
    match skipBlanks text with
    | [] => .error (.at .endInValue [] 0)
    | .malformed octets :: rest => .error (.at .expectedValue (.malformed octets :: rest) 1)
    | .char c :: rest =>
      match c with
      | 'n' => do
        let rest ← keyword ['u', 'l', 'l'] rest
        return (.null, rest)
      | 't' => do
        let rest ← keyword ['r', 'u', 'e'] rest
        return (.boolean true, rest)
      | 'f' => do
        let rest ← keyword ['a', 'l', 's', 'e'] rest
        return (.boolean false, rest)
      | '"' => do
        let (read, rest) ← stringToken rest
        return (.string read, rest)
      | '-' => do
        let (read, rest) ← numeral true rest
        return (.number read, rest)
      | '[' =>
        nested depth (.char c :: rest) fun depth => do
          let (items, rest) ← enclosed closeList (listItems (value bound depth) bound true) rest
          return (.array items, rest)
      | '{' =>
        nested depth (.char c :: rest) fun depth => do
          let (members, rest) ← enclosed closeObject
            (objectMembers (plainMember (value bound depth)) bound true []) rest
          return (.object members, rest)
      | _ =>
        if (digit? (.char c)).isSome then do
          let (read, rest) ← numeral false (.char c :: rest)
          return (.number read, rest)
        else .error (.at .expectedValue (.char c :: rest) 1)

/-- Reads a plain value that may be nested so deeply. -/
def plain (depth : Nat) (text : Source) : Attempt (Json × Source) :=
  value (text.length + 1) depth text

/-- Reads a whole document: what the reader reads, and nothing but blanks after it. -/
def document {α : Type} (reader : Nat → Source → Attempt (α × Source)) (text : Source) :
    Except ReadError α :=
  match reader greatestDepth text with
  | .error stop => .error (stop.toError text)
  | .ok (read, rest) =>
    match skipBlanks rest with
    | [] => .ok read
    | symbol :: rest => .error ((Stop.at .trailingText (symbol :: rest) 1).toError text)

/-- Reads a text as a value. -/
def parse (text : String) : Except ReadError Json := document plain (symbols text)

end RowFilter.Json
