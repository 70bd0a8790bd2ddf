import RowFilter.Text.CaseTable

/-!
# Capitalised names

A name is shown to callers with its first character in upper case and the rest as it is. The upper
case of one character may be several, as for the sharp s.
-/

namespace RowFilter.Text

/-- The upper case of one character. -/
def upperChar (c : Char) : List Char :=
  match upperExpansions.lookup c.toNat with
  | some codes => codes.map Char.ofNat
  | none => [Char.ofNat (mapThrough upperRuns c.toNat)]

/-- The text with its first character in upper case. -/
def capitalised (text : String) : String :=
  match text.toList with
  | [] => ""
  | c :: rest => String.ofList (upperChar c ++ rest)

end RowFilter.Text
