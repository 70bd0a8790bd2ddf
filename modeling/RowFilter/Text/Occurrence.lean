/-!
# Parts of a text

Whether a text starts with, ends with or holds another, decided on the characters, and the parts
around a separator.
-/

namespace RowFilter.Text

/-- Whether `part` stands at the start of the text. -/
def startsWith (part text : List Char) : Bool := part.isPrefixOf text

/-- Whether `part` stands at the end of the text. -/
def endsWith (part text : List Char) : Bool := part.reverse.isPrefixOf text.reverse

/-- Whether `part` stands anywhere in the text. -/
def occursIn (part : List Char) : List Char → Bool
  | [] => part.isEmpty
  | c :: rest => startsWith part (c :: rest) || occursIn part rest

/-- The characters before and after the last separator, if there is one. -/
def splitAtLast? (separator : Char) : List Char → Option (List Char × List Char)
  | [] => none
  | c :: rest =>
    match splitAtLast? separator rest with
    | some (before, after) => some (c :: before, after)
    | none => if c = separator then some ([], rest) else none

end RowFilter.Text
