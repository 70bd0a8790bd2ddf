import RowFilter.Calendar.Instant
import RowFilter.Number.Reading
import RowFilter.Text.Blank

/-!
# Reading dates and times

A text is a date if, without the white space around it, it is an internet timestamp with an offset,
or a date and time without one, or a bare date. The first kind fixes the number of digits; in the
others a number may have fewer digits and white space before it, and a signed year any number of
digits. Times without an offset are universal time.
-/

namespace RowFilter.Calendar

open Number Text

/-- Reads at least `fewest` and at most `most` digits. -/
def scanDigits (fewest most : Nat) (text : List Char) : Option (List Nat × List Char) :=
  let digits := (spanDigits (text.take most)).1
  if digits.length < fewest then none else some (digits, text.drop digits.length)

/-- Reads a number of at least `fewest` and at most `most` digits. -/
def scanNumber (fewest most : Nat) (text : List Char) : Option (Nat × List Char) :=
  (scanDigits fewest most text).map fun scan => (positional 10 scan.1, scan.2)

/-- Reads one given character. -/
def scanChar (c : Char) (text : List Char) : Option (List Char) :=
  match text with
  | d :: rest => if d = c then some rest else none
  | [] => none

/-- The nanoseconds of the digits of a fraction, of which only the first nine count. -/
def nanosOfDigits (digits : List Nat) : Nat :=
  positional 10 (digits.take 9) * tenTo (9 - (digits.take 9).length)

/-- Reads a fraction of a second after its point. -/
def scanFraction (text : List Char) : Option (Nat × List Char) :=
  match spanDigits text with
  | ([], _) => none
  | (digits, rest) => some (nanosOfDigits digits, rest)

/-- Reads a fraction of a second, if there is a point. -/
def scanOptionalFraction (text : List Char) : Option (Nat × List Char) :=
  match text with
  | '.' :: rest => scanFraction rest
  | _ => some (0, text)

/-- Reads an offset from universal time in seconds: a letter for none, or a sign, hours and
minutes. -/
def scanOffset (text : List Char) : Option (Int × List Char) :=
  match text with
  | [] => none
  | sign :: rest =>
    if sign = 'Z' || sign = 'z' then some (0, rest)
    else if sign = '+' || sign = '-' || sign.toNat = 0x2212 then do
      let (hours, rest) ← scanNumber 2 2 rest
      let rest ← scanChar ':' rest
      let (minutes, rest) ← scanNumber 2 2 rest
      if minutes ≤ 59 && hours ≤ 23 then
        let ahead : Int := hours * 3600 + minutes * 60
        return (if sign = '+' then ahead else -ahead, rest)
      else none
    else none

/-- The instant of a date, a time and an offset, if all exist. -/
def instantOf? (date : Date) (time : TimeOfDay) (ahead : Int) : Option Instant :=
  if date.isValid && time.isValid then some (instantOf date time ahead) else none

/-- Whether a character may stand between the date and the time of an internet timestamp. -/
def isTimeMark (c : Char) : Bool := c = 'T' || c = 't' || c = ' '

/-- Reads an internet timestamp. -/
def readTimestamp? (text : List Char) : Option Instant := do
  let (year, text) ← scanNumber 4 4 text
  let text ← scanChar '-' text
  let (month, text) ← scanNumber 2 2 text
  let text ← scanChar '-' text
  let (day, text) ← scanNumber 2 2 text
  let (mark, text) ← text.head?.map fun mark => (mark, text.drop 1)
  if isTimeMark mark then
    let (hour, text) ← scanNumber 2 2 text
    let text ← scanChar ':' text
    let (minute, text) ← scanNumber 2 2 text
    let text ← scanChar ':' text
    let (second, text) ← scanNumber 2 2 text
    let (nanos, text) ← scanOptionalFraction text
    let (ahead, text) ← scanOffset text
    if text.isEmpty then instantOf? ⟨year, month, day⟩ ⟨hour, minute, second, nanos⟩ ahead else none
  else none

/-- Reads a year: any number of digits after a sign, at most four without one. -/
def scanYear (text : List Char) : Option (Int × List Char) :=
  match trimLeft text with
  | '-' :: rest => (scanNumber 1 rest.length rest).map fun scan => (-(scan.1 : Int), scan.2)
  | '+' :: rest => (scanNumber 1 rest.length rest).map fun scan => ((scan.1 : Int), scan.2)
  | text => (scanNumber 1 4 text).map fun scan => ((scan.1 : Int), scan.2)

/-- Reads one or two digits after white space. -/
def scanPair (text : List Char) : Option (Nat × List Char) := scanNumber 1 2 (trimLeft text)

/-- Reads a date of loosely written numbers. -/
def scanDate (text : List Char) : Option (Date × List Char) := do
  let (year, text) ← scanYear text
  let text ← scanChar '-' text
  let (month, text) ← scanPair text
  let text ← scanChar '-' text
  let (day, text) ← scanPair text
  return (⟨year, month, day⟩, text)

/-- Reads a time of loosely written numbers, with or without seconds. -/
def scanTime (seconds : Bool) (text : List Char) : Option (TimeOfDay × List Char) := do
  let (hour, text) ← scanPair text
  let text ← scanChar ':' text
  let (minute, text) ← scanPair text
  if seconds then
    let text ← scanChar ':' text
    let (second, text) ← scanPair text
    let (nanos, text) ← scanOptionalFraction text
    return (⟨hour, minute, second, nanos⟩, text)
  else return (⟨hour, minute, 0, 0⟩, text)

/-- What separates a date from a time of universal time. -/
inductive Separator where
  /-- The letter T. -/
  | letter
  /-- Any white space, or none at all. -/
  | space

/-- Reads what separates a date from a time. -/
def Separator.scan : Separator → List Char → Option (List Char)
  | .letter, text => scanChar 'T' text
  | .space, text => some (trimLeft text)

/-- Reads a date and a time without an offset. -/
def readDateTime? (separator : Separator) (seconds : Bool) (text : List Char) : Option Instant := do
  let (date, text) ← scanDate text
  let text ← separator.scan text
  let (time, text) ← scanTime seconds text
  if text.isEmpty then instantOf? date time 0 else none

/-- Reads a bare date as its first instant. -/
def readDate? (text : List Char) : Option Instant := do
  let (date, text) ← scanDate text
  if text.isEmpty then instantOf? date ⟨0, 0, 0, 0⟩ 0 else none

/-- Reads a text as an instant, by the first way that fits. -/
def readChars? (text : List Char) : Option Instant :=
  readTimestamp? text
    <|> readDateTime? .letter true text
    <|> readDateTime? .space true text
    <|> readDateTime? .letter false text
    <|> readDateTime? .space false text
    <|> readDate? text

/-- Reads a text as an instant, white space around it aside. -/
def read? (text : String) : Option Instant := readChars? (trim text.toList)

end RowFilter.Calendar
