import RowFilter.Text.Occurrence

/-!
# Punycode

Characters outside ASCII are written in letters and digits. The ASCII characters of the text come
first, then a hyphen, if there are any. The rest is one number for each further character, in the
order of the characters' code points: how many steps lie between its code point and place and those
of the one before, where a step goes to the next place in the text, and from the last place to the
next code point. A number is written in digits of base 36, lowest first; each place has a threshold,
the first digit below it ends the number, and the thresholds follow the size of the numbers so far.
-/

namespace RowFilter.Url.Punycode

open Text

/-- The value of a digit: letters of either case, then the decimal digits. -/
def digitValue? (c : Char) : Option Nat :=
  if 'a' ≤ c && c ≤ 'z' then some (c.toNat - 0x61)
  else if 'A' ≤ c && c ≤ 'Z' then some (c.toNat - 0x41)
  else if '0' ≤ c && c ≤ '9' then some (c.toNat - 0x30 + 26)
  else none

/-- The bias of a number that is scaled down. -/
def settle (n : Nat) : Nat := if 455 < n then 36 + settle (n / 35) else 36 * n / (n + 38)
termination_by n

/-- The bias after a number that placed one of the given count of characters; the first number is
scaled down the most. -/
def adapt (first : Bool) (count number : Nat) : Nat :=
  let scaled := number / (if first then 700 else 2)
  settle (scaled + scaled / count)

/-- How far a text is read. -/
structure Progress where
  /-- The characters so far. -/
  text : List Char
  /-- The code point of the character placed last. -/
  code : Nat := 0x80
  /-- The place after that character. -/
  place : Nat := 0
  /-- What the thresholds follow. -/
  bias : Nat := 72
  /-- The number that is being read, so far. -/
  number : Nat := 0
  /-- What its next digit counts for. -/
  weight : Nat := 1
  /-- How many digits it has so far. -/
  length : Nat := 0

/-- The threshold of the next digit. -/
def Progress.threshold (p : Progress) : Nat := max 1 (min 26 (36 * (p.length + 1) - p.bias))

/-- Places the character that a number stands for, unless there is no such character. -/
def Progress.insert? (p : Progress) (number : Nat) : Option Progress :=
  let count := p.text.length + 1
  let steps := p.place + number
  let code := p.code + steps / count
  let place := steps % count
  if code.isValidChar then
    some {
      text := p.text.insertIdx place (Char.ofNat code)
      code
      place := place + 1
      bias := adapt (p.place = 0) count number }
  else none

/-- Reads a digit; the numbers have at most 32 bits. -/
def Progress.read? (p : Progress) (digit : Nat) : Option Progress :=
  let number := p.number + digit * p.weight
  let weight := p.weight * (36 - p.threshold)
  if 0xFFFFFFFF < p.place + number then none
  else if digit < p.threshold then p.insert? number
  else if 0xFFFFFFFF < weight then none
  else some { p with number, weight, length := p.length + 1 }

/-- Reads characters as digits; the last has to end a number. -/
def readFrom? (p : Progress) : List Char → Option (List Char)
  | [] => if p.length = 0 then some p.text else none
  | c :: rest => do
    let digit ← digitValue? c
    let p ← p.read? digit
    readFrom? p rest

/-- The text that ASCII characters stand for; a hyphen that no ASCII character comes before is
none. -/
def decode? (text : List Char) : Option (List Char) :=
  match splitAtLast? '-' text with
  | some ([], _) => none
  | some (ascii, digits) =>
    if ascii.all (·.toNat < 0x80) then readFrom? { text := ascii } digits else none
  | none => readFrom? { text := [] } text

end RowFilter.Url.Punycode
