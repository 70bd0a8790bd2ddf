/-!
# Joining texts

Texts in a row with a separator between neighbours, stated by recursion on the row.
-/

namespace RowFilter.Text

/-- The texts one after the other, with the separator between neighbours. -/
def joined (separator : String) : List String → String
  | [] => ""
  | [text] => text
  | text :: rest => text ++ separator ++ joined separator rest

/-- The characters of the text with every occurrence of one character replaced by a row of
characters. -/
def replaceChar (c : Char) (replacement : List Char) (text : List Char) : List Char :=
  text.flatMap fun d => if d = c then replacement else [d]

end RowFilter.Text
