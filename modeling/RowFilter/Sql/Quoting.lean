import RowFilter.Relation
import RowFilter.Text.Joined

/-!
# Quoting in statements

Identifiers stand between double quotes and texts between single quotes, with every quote inside
doubled, so that nothing a caller supplies ends its quotes. A pattern takes its wildcards literally
when they stand behind a backslash.
-/

namespace RowFilter.Sql

open Text

/-- Characters between quotes, with every quote among them doubled. -/
def quoteChars (quote : Char) (text : List Char) : List Char :=
  quote :: replaceChar quote [quote, quote] text ++ [quote]

/-- A name as an identifier. -/
def identifier (name : String) : String := String.ofList (quoteChars '"' name.toList)

/-- A text as a literal. -/
def textLiteral (text : String) : String := String.ofList (quoteChars '\'' text.toList)

/-- Whether a character has a meaning of its own in a pattern. -/
def isPatternChar (c : Char) : Bool := c = '\\' || c = '%' || c = '_'

/-- The characters as a pattern that stands for exactly these characters. -/
def escapePatternChars (text : List Char) : List Char :=
  text.flatMap fun c => if isPatternChar c then ['\\', c] else [c]

/-- A text as a pattern that stands for exactly this text. -/
def escapePattern (text : String) : String := String.ofList (escapePatternChars text.toList)

/-- The pattern of the texts in which the given text occurs. -/
def pattern (occurrence : Occurrence) (text : String) : String :=
  match occurrence with
  | .anywhere => "%" ++ escapePattern text ++ "%"
  | .atStart => escapePattern text ++ "%"
  | .atEnd => "%" ++ escapePattern text

end RowFilter.Sql
