import RowFilter.Text.Hex
import RowFilter.Text.UnprintableTable

/-!
# Quoted text for messages

Text that is shown inside a message stands between double quotes, with a backslash before quotes and
backslashes, letters for the common controls, and code points for whatever has no shape of its own.
-/

namespace RowFilter.Text

/-- How one character is shown between quotes. -/
def quotedChar (c : Char) : List Char :=
  if c = '"' then ['\\', '"']
  else if c = '\\' then ['\\', '\\']
  else if c.toNat = 0 then ['\\', '0']
  else if c = '\t' then ['\\', 't']
  else if c = '\n' then ['\\', 'n']
  else if c = '\r' then ['\\', 'r']
  else if graphemeExtending.contains c || unprintable.contains c then
    ['\\', 'u', '\x7b'] ++ hexDigits c.toNat ++ ['\x7d']
  else [c]

/-- The text between double quotes, readable in one line. -/
def quoted (text : String) : String :=
  String.ofList ('"' :: text.toList.flatMap quotedChar ++ ['"'])

end RowFilter.Text
