import RowFilter.Number.Double
import RowFilter.Text.Hex

/-!
# Reading numbers and flags from settings

The spellings of whole numbers, doubles and flags that settings may use, and why a text is none.
Whole numbers are read digit by digit, so the first bad digit or the first digit too many decides
the fault.
-/

namespace RowFilter.Number

open Text

/-- Why a text spells no number or flag. -/
inductive ReadFault where
  /-- No whole number in an empty text. -/
  | emptyWhole
  /-- A character that is no digit. -/
  | invalidDigit
  /-- A whole number above the range. -/
  | tooLarge
  /-- A whole number below the range. -/
  | tooSmall
  /-- No double in an empty text. -/
  | emptyDouble
  /-- A text that spells no double. -/
  | invalidDouble
  /-- A text that spells no flag. -/
  | notFlag
  deriving DecidableEq, Repr

/-- The wording of the fault. -/
def ReadFault.message : ReadFault → String
  | .emptyWhole => "cannot parse integer from empty string"
  | .invalidDigit => "invalid digit found in string"
  | .tooLarge => "number too large to fit in target type"
  | .tooSmall => "number too small to fit in target type"
  | .emptyDouble => "cannot parse float from empty string"
  | .invalidDouble => "invalid float literal"
  | .notFlag => "provided string was not \x60true\x60 or \x60false\x60"

/-- The whole numbers between two bounds. -/
structure WholeRange where
  /-- The least number. -/
  least : Int
  /-- The greatest number. -/
  greatest : Int

/-- Whole numbers of 16 bits without sign. -/
def unsigned16 : WholeRange := ⟨0, twoTo 16 - 1⟩

/-- Whole numbers of 64 bits without sign. -/
def unsigned64 : WholeRange := ⟨0, twoTo 64 - 1⟩

/-- Whole numbers of 32 bits with sign. -/
def signed32 : WholeRange := ⟨-twoTo 31, twoTo 31 - 1⟩

/-- Whole numbers of 64 bits with sign. -/
def signed64 : WholeRange := ⟨-twoTo 63, twoTo 63 - 1⟩

/-- Whether a number lies in the range. -/
def WholeRange.holds (range : WholeRange) (n : Int) : Bool := range.least ≤ n && n ≤ range.greatest

/-- The value of a decimal digit. -/
def digitValue? (c : Char) : Option Nat :=
  if '0' ≤ c && c ≤ '9' then some (c.toNat - 0x30) else none

/-- Reads digits after a number read so far, staying in the range. -/
def readDigits (range : WholeRange) (negative : Bool) (value : Int) :
    List Char → Except ReadFault Int
  | [] => .ok value
  | c :: rest =>
    match digitValue? c with
    | none => .error .invalidDigit
    | some digit =>
      let next : Int := if negative then 10 * value - digit else 10 * value + digit
      if range.greatest < next then .error .tooLarge
      else if next < range.least then .error .tooSmall
      else readDigits range negative next rest

/-- Reads a whole number of the range: digits after an optional plus sign, or a minus sign where the
range holds negative numbers. -/
def readWhole (range : WholeRange) (text : String) : Except ReadFault Int :=
  match text.toList with
  | [] => .error .emptyWhole
  | ['+'] => .error .invalidDigit
  | ['-'] => .error .invalidDigit
  | '+' :: digits => readDigits range false 0 digits
  | '-' :: digits =>
    if range.least < 0 then readDigits range true 0 digits else .error .invalidDigit
  | digits => readDigits range false 0 digits

/-- Reads a flag. -/
def readFlag (text : String) : Except ReadFault Bool :=
  if text = "true" then .ok true else if text = "false" then .ok false else .error .notFlag

/-- The digits that a text starts with, as values, and the rest. -/
def spanDigits : List Char → List Nat × List Char
  | [] => ([], [])
  | c :: rest =>
    match digitValue? c with
    | none => ([], c :: rest)
    | some digit => (digit :: (spanDigits rest).1, (spanDigits rest).2)

/-- The double nearest to `digits` times ten to the `exponent`. Exponents that put the number beyond
every finite double, or below half the least positive one, are decided without computing the
power. -/
def ofDecimal (negative : Bool) (digits : Nat) (exponent : Int) : Double :=
  let leading : Int := exponent + (Nat.toDigits 10 digits).length
  if digits = 0 then .zero negative
  else if 310 < leading then .infinite negative
  else if leading < -330 then .zero negative
  else .ofRatio negative (digits * tenTo exponent.toNat) (tenTo (-exponent).toNat)

/-- Reads an exponent after its mark: digits with an optional sign, and nothing after them. -/
def readExponent? (text : List Char) : Option Int :=
  let (negative, digits) := match text with
    | '-' :: rest => (true, rest)
    | '+' :: rest => (false, rest)
    | rest => (false, rest)
  match spanDigits digits with
  | ([], _) => none
  | (values, []) =>
    let n : Int := positional 10 values
    some (if negative then -n else n)
  | _ => none

/-- Reads an unsigned double: digits with an optional point among or beside them, and an optional
exponent. -/
def readUnsigned? (negative : Bool) (text : List Char) : Option Double :=
  let (whole, rest) := spanDigits text
  let (fraction, rest) := match rest with
    | '.' :: rest => spanDigits rest
    | rest => ([], rest)
  if whole.isEmpty && fraction.isEmpty then none
  else
    let exponent? : Option Int := match rest with
      | [] => some 0
      | mark :: rest => if mark = 'e' || mark = 'E' then readExponent? rest else none
    exponent?.map fun exponent =>
      ofDecimal negative (positional 10 (whole ++ fraction)) (exponent - fraction.length)

/-- Reads a word for infinity or for what is no number, in any case. -/
def readSpecial? (negative : Bool) (text : List Char) : Option Double :=
  let word := String.ofList (text.map Char.toLower)
  if word = "inf" || word = "infinity" then some (.infinite negative)
  else if word = "nan" then some .notANumber
  else none

/-- Reads a double. -/
def readDouble (text : String) : Except ReadFault Double :=
  let (negative, body) := match text.toList with
    | '-' :: rest => (true, rest)
    | '+' :: rest => (false, rest)
    | rest => (false, rest)
  if text.isEmpty then .error .emptyDouble
  else match (readUnsigned? negative body).or (readSpecial? negative body) with
    | some x => .ok x
    | none => .error .invalidDouble

end RowFilter.Number
