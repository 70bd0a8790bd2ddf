import RowFilter.Json.Basic
import RowFilter.Number.Style
import RowFilter.Text.Hex

/-!
# Writing JSON

The compact text of a value: no blanks, members in their order, quotes, backslashes and control
characters escaped and all other characters as they are. Doubles are written in the style of
documents.
-/

namespace RowFilter.Json

open Number Text

/-- How one character stands between quotes. -/
def escapedChar (c : Char) : List Char :=
  if c = '"' then ['\\', '"']
  else if c = '\\' then ['\\', '\\']
  else if c.toNat = 8 then ['\\', 'b']
  else if c.toNat = 12 then ['\\', 'f']
  else if c = '\n' then ['\\', 'n']
  else if c = '\r' then ['\\', 'r']
  else if c = '\t' then ['\\', 't']
  else if c.toNat < 0x20 then
    ['\\', 'u', '0', '0', hexDigit (c.toNat / 16), hexDigit (c.toNat % 16)]
  else [c]

/-- A text between quotes. -/
def stringChars (text : String) : List Char := '"' :: text.toList.flatMap escapedChar ++ ['"']

/-- The digits of a whole number, after its sign. -/
def integerChars (n : Int) : List Char := (if n < 0 then ['-'] else []) ++ digitChars n.natAbs

/-- A number; what is no finite number is written as null. -/
def numeralChars : Numeral → List Char
  | .integer n => integerChars n
  | .double x => if x.isFinite then documentStyle.writeFinite x else ['n', 'u', 'l', 'l']

/-- Rows of characters with commas between them. -/
def commaSeparated : List (List Char) → List Char
  | [] => []
  | [chars] => chars
  | chars :: rest => chars ++ ',' :: commaSeparated rest

/-- A named value of an object. -/
def memberChars (name : String) (value : List Char) : List Char := stringChars name ++ ':' :: value

/-- Rows of characters between brackets. -/
def arrayChars (items : List (List Char)) : List Char := '[' :: commaSeparated items ++ [']']

/-- Named rows of characters between braces. -/
def objectChars (members : List (String × List Char)) : List Char :=
  '{' :: commaSeparated (members.map fun member => memberChars member.1 member.2) ++ ['}']

mutual

/-- The characters of a value. -/
def chars : Json → List Char
  | .null => ['n', 'u', 'l', 'l']
  | .boolean true => ['t', 'r', 'u', 'e']
  | .boolean false => ['f', 'a', 'l', 's', 'e']
  | .number n => numeralChars n
  | .string text => stringChars text
  | .array items => arrayChars (charsOfItems items)
  | .object members => objectChars (charsOfMembers members)

/-- The characters of each value. -/
def charsOfItems : List Json → List (List Char)
  | [] => []
  | item :: rest => chars item :: charsOfItems rest

/-- The characters of each member's value, with its name. -/
def charsOfMembers : List (String × Json) → List (String × List Char)
  | [] => []
  | (name, value) :: rest => (name, chars value) :: charsOfMembers rest

end

/-- The compact text of a value. -/
def text (value : Json) : String := String.ofList value.chars

/-- The compact text of rows. -/
def textOfRecords (records : List Record) : String := (Json.array (records.map .object)).text

end RowFilter.Json
