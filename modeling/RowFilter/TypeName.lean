/-!
# Names of database types

A type name may stand in a statement without quotes if it is one identifier, or two joined by a dot.
-/

namespace RowFilter.TypeName

/-- Whether an identifier may start with the character: an ASCII letter or an underscore. -/
def isStart (c : Char) : Bool := ('A' ≤ c && c ≤ 'Z') || ('a' ≤ c && c ≤ 'z') || c = '_'

/-- Whether an identifier may go on with the character: a start, an ASCII digit or a dollar sign. -/
def isContinuation (c : Char) : Bool := isStart c || ('0' ≤ c && c ≤ '9') || c = '$'

/-- Whether the characters are one identifier. -/
def isIdentifier : List Char → Bool
  | [] => false
  | c :: rest => isStart c && rest.all isContinuation

/-- Whether the characters are a type name. -/
def isTypeNameChars (chars : List Char) : Bool :=
  match chars.span (· ≠ '.') with
  | (first, []) => isIdentifier first
  | (first, _ :: second) => isIdentifier first && isIdentifier second

/-- Whether a text is a type name. -/
def isTypeName (text : String) : Bool := isTypeNameChars text.toList

end RowFilter.TypeName
