import RowFilter.Json.Source
import RowFilter.Number.Reading

/-!
# Words, texts and numbers of a document

The parts of a document that hold no others. A number is read with a significand of at most 64 bits;
digits beyond those only count towards the exponent. Its value is the double nearest to the
significand, multiplied by or divided by the double nearest to a power of ten, so it is rounded
twice and need not be the double nearest to the decimal.
-/

namespace RowFilter.Json

open Number Text

/-- Whether a symbol may stand between the parts of a document. -/
def isBlank (symbol : Symbol) : Bool :=
  symbol == .char ' ' || symbol == .char '\t' || symbol == .char '\n' || symbol == .char '\r'

/-- The text without the blanks it starts with. -/
def skipBlanks (text : Source) : Source := text.dropWhile isBlank

/-- Reads the given letters. -/
def keyword : List Char → Source → Attempt Source
  | [], text => .ok text
  | _ :: _, [] => .error (.at .endInValue [] 0)
  | letter :: letters, symbol :: rest =>
    if symbol = .char letter then keyword letters rest
    else .error (.at .expectedKeyword (symbol :: rest) 1)

/-- The values of four hexadecimal digits at the start of a text, as one number. -/
def fourHexDigits? : Source → Option (Nat × Source)
  | .char a :: .char b :: .char c :: .char d :: rest => do
    let digits ← [a, b, c, d].mapM hexValue?
    return (positional 16 digits, rest)
  | _ => none

/-- Reads the four digits of an escaped code unit. -/
def codeUnit (text : Source) : Attempt (Nat × Source) :=
  match fourHexDigits? text with
  | some read => .ok read
  | none => .error (if size text < 4 then .at .endInString [] 0 else .at .badEscape text 4)

/-- Reads one expected character of the second half of a surrogate pair. -/
def secondHalfMark (mark : Char) (text : Source) : Attempt Source :=
  match text with
  | [] => .error (.at .endInString [] 0)
  | symbol :: rest =>
    if symbol = .char mark then .ok rest else .error (.at .brokenSurrogate (symbol :: rest) 1)

/-- Reads an escaped code point after its letter: one code unit, or a surrogate pair. -/
def escapedCodePoint (text : Source) : Attempt (Char × Source) := do
  let (first, rest) ← codeUnit text
  if 0xDC00 ≤ first && first ≤ 0xDFFF then .error (.at .loneSurrogate rest 0)
  else if first < 0xD800 || 0xDBFF < first then return (Char.ofNat first, rest)
  else
    let rest ← secondHalfMark '\\' rest
    let rest ← secondHalfMark 'u' rest
    let (second, rest) ← codeUnit rest
    if second < 0xDC00 || 0xDFFF < second then .error (.at .loneSurrogate rest 0)
    else return (Char.ofNat (0x10000 + 0x400 * (first - 0xD800) + (second - 0xDC00)), rest)

/-- The character that a letter stands for after a backslash. -/
def escapeLetter? (letter : Char) : Option Char :=
  match letter with
  | '"' => some '"'
  | '\\' => some '\\'
  | '/' => some '/'
  | 'b' => some (Char.ofNat 8)
  | 'f' => some (Char.ofNat 12)
  | 'n' => some '\n'
  | 'r' => some '\r'
  | 't' => some '\t'
  | _ => none

/-- Reads an escape after its backslash. -/
def escape (text : Source) : Attempt (Char × Source) :=
  match text with
  | [] => .error (.at .endInString [] 0)
  | .char 'u' :: rest => escapedCodePoint rest
  | .char letter :: rest =>
    match escapeLetter? letter with
    | some c => .ok (c, rest)
    | none => .error (.at .badEscape (.char letter :: rest) 1)
  | symbol :: rest => .error (.at .badEscape (symbol :: rest) 1)

/-- Reads up to the closing quote, with the characters that escapes stand for in their place; the
first argument bounds the symbols read. -/
def quotation : Nat → Source → Attempt (List Symbol × Source)
  | 0, text => .error (.at .endInString text 0)
  | _ + 1, [] => .error (.at .endInString [] 0)
  | bound + 1, .malformed octets :: rest => do
    let (read, rest) ← quotation bound rest
    return (.malformed octets :: read, rest)
  | bound + 1, .char c :: rest =>
    if c = '"' then .ok ([], rest)
    else if c = '\\' then do
      let (c, rest) ← escape rest
      let (read, rest) ← quotation bound rest
      return (.char c :: read, rest)
    else if c.toNat < 0x20 then .error (.at .controlCharacter rest 0)
    else do
      let (read, rest) ← quotation bound rest
      return (.char c :: read, rest)

/-- The number of octets of symbols from the first malformed one on. -/
def sizeFromMalformed : List Symbol → Nat
  | [] => 0
  | .char _ :: rest => sizeFromMalformed rest
  | .malformed octets :: rest => size (.malformed octets :: rest)

/-- Reads a text after its opening quote. Octets that encode no character are only found at the
closing quote; the fault is placed as far before the end of the quotation as they stand before the
end of what was read, escapes counting as the characters they stand for. -/
def stringToken (text : Source) : Attempt (String × Source) := do
  let (read, rest) ← quotation (text.length + 1) text
  match wellFormedChars? read with
  | some chars => return (String.ofList chars, rest)
  | none => .error (.before .badCodePoint rest (sizeFromMalformed read))

/-- The value of a digit. -/
def digit? : Symbol → Option Nat
  | .char c => digitValue? c
  | .malformed _ => none

/-- The greatest significand. -/
def greatestSignificand : Nat := twoTo 64 - 1

/-- Digits appended to a significand while it stays within its bound. -/
structure Digits where
  /-- The significand with the digits appended. -/
  significand : Nat
  /-- How many digits were appended. -/
  taken : Nat
  /-- The text from the first digit that does not fit, or from what is no digit. -/
  rest : Source

/-- Appends digits to a significand while it stays within its bound. -/
def takeDigits (significand : Nat) : Source → Digits
  | [] => ⟨significand, 0, []⟩
  | symbol :: rest =>
    match digit? symbol with
    | none => ⟨significand, 0, symbol :: rest⟩
    | some digit =>
      if greatestSignificand < 10 * significand + digit then ⟨significand, 0, symbol :: rest⟩
      else
        let more := takeDigits (10 * significand + digit) rest
        { more with taken := more.taken + 1 }

/-- Skips digits and counts them. -/
def skipDigits : Source → Nat × Source
  | [] => (0, [])
  | symbol :: rest =>
    if (digit? symbol).isSome then ((skipDigits rest).1 + 1, (skipDigits rest).2)
    else (0, symbol :: rest)

/-- The double nearest to a power of ten. -/
def powerOfTen (n : Nat) : Double := .ofInt (tenTo n)

/-- The greatest power of ten by which a double is divided at once. -/
def greatestPower : Nat := 308

/-- A double divided by a power of ten, by the greatest power again and again while it does not
suffice; the first argument bounds the divisions. -/
def divideByPower : Nat → Double → Nat → Double
  | 0, x, n => x.dividedBy (powerOfTen n)
  | bound + 1, x, n =>
    if n ≤ greatestPower then x.dividedBy (powerOfTen n)
    else if x.isZero then x
    else divideByPower bound (x.dividedBy (powerOfTen greatestPower)) (n - greatestPower)

/-- The double of a significand and a power of ten without sign, if it is finite. -/
def scaled? (significand : Nat) (exponent : Int) : Option Double :=
  let x := Double.ofInt significand
  if exponent < 0 then some (divideByPower (exponent.natAbs / greatestPower) x exponent.natAbs)
  else if x.isZero then some x
  else if greatestPower < exponent then none
  else
    let product := x.times (powerOfTen exponent.natAbs)
    if product.isFinite then some product else none

/-- The double with a sign. -/
def signed (negative : Bool) (x : Double) : Double := if negative then x.negate else x

/-- The number of a significand and an exponent. -/
def scaledNumber (negative : Bool) (significand : Nat) (exponent : Int) (rest : Source) :
    Attempt (Numeral × Source) :=
  match scaled? significand exponent with
  | some x => .ok (.double (signed negative x), rest)
  | none => .error (.at .numberOutOfRange rest 0)

/-- The greatest exponent that may be written. -/
def greatestExponent : Nat := twoTo 31 - 1

/-- Digits of an exponent. -/
inductive ExponentDigits where
  /-- All digits, which make an exponent within the bound. -/
  | within (exponent : Nat) (rest : Source)
  /-- Digits up to the first one that makes the exponent too large. -/
  | beyond (rest : Source)

/-- Reads the digits of an exponent after a part of it. -/
def exponentDigits (exponent : Nat) : Source → ExponentDigits
  | [] => .within exponent []
  | symbol :: rest =>
    match digit? symbol with
    | none => .within exponent (symbol :: rest)
    | some digit =>
      if greatestExponent < 10 * exponent + digit then .beyond rest
      else exponentDigits (10 * exponent + digit) rest

/-- Reads an exponent after its letter. An exponent that is too large is out of range if it is
positive and the significand is not zero; otherwise the number is a zero. -/
def exponentPart (negative : Bool) (significand : Nat) (start : Int) (text : Source) :
    Attempt (Numeral × Source) :=
  let (below, text) := match text with
    | .char '+' :: rest => (false, rest)
    | .char '-' :: rest => (true, rest)
    | text => (false, text)
  match text with
  | [] => .error (.at .endInValue [] 0)
  | symbol :: rest =>
    match digit? symbol with
    | none => .error (.at .badNumber (symbol :: rest) 1)
    | some digit =>
      match exponentDigits digit rest with
      | .within exponent rest =>
        scaledNumber negative significand
          (if below then start - exponent else start + exponent) rest
      | .beyond rest =>
        if significand ≠ 0 && !below then .error (.at .numberOutOfRange rest 0)
        else .ok (.double (.zero negative), (skipDigits rest).2)

/-- Reads what follows a significand: an exponent, or the end of the number. -/
def exponentOrEnd (negative : Bool) (significand : Nat) (exponent : Int) (text : Source) :
    Attempt (Numeral × Source) :=
  match text with
  | .char 'e' :: rest => exponentPart negative significand exponent rest
  | .char 'E' :: rest => exponentPart negative significand exponent rest
  | _ => scaledNumber negative significand exponent text

/-- Reads the digits after a point. -/
def fractionPart (negative : Bool) (significand : Nat) (exponent : Int) (text : Source) :
    Attempt (Numeral × Source) :=
  let digits := takeDigits significand text
  let (skipped, rest) := skipDigits digits.rest
  if digits.taken = 0 && skipped = 0 then
    .error (.at (if rest.isEmpty then .endInValue else .badNumber) rest 1)
  else exponentOrEnd negative digits.significand (exponent - digits.taken) rest

/-- A whole number of 64 bits, or the double nearest to it; minus zero is a double. -/
def wholeNumber (negative : Bool) (significand : Nat) : Numeral :=
  if !negative then .integer significand
  else if significand = 0 || twoTo 63 < significand then .double (Double.ofInt significand).negate
  else .integer (-significand)

/-- Reads what follows the digits before a point, of which `extra` did not fit into the
significand. -/
def afterWhole (negative : Bool) (significand extra : Nat) (text : Source) :
    Attempt (Numeral × Source) :=
  match text with
  | .char '.' :: rest => fractionPart negative significand extra rest
  | .char 'e' :: rest => exponentPart negative significand extra rest
  | .char 'E' :: rest => exponentPart negative significand extra rest
  | _ =>
    if extra = 0 then .ok (wholeNumber negative significand, text)
    else scaledNumber negative significand extra text

/-- Reads a number after its sign. -/
def numeral (negative : Bool) (text : Source) : Attempt (Numeral × Source) :=
  match text with
  | [] => .error (.at .endInValue [] 0)
  | symbol :: rest =>
    match digit? symbol with
    | none => .error (.at .badNumber (symbol :: rest) 1)
    | some 0 =>
      match rest with
      | next :: _ =>
        if (digit? next).isSome then .error (.at .badNumber rest 1)
        else afterWhole negative 0 0 rest
      | [] => afterWhole negative 0 0 []
    | some digit =>
      let digits := takeDigits digit rest
      let (extra, rest) := skipDigits digits.rest
      afterWhole negative digits.significand extra rest

end RowFilter.Json
