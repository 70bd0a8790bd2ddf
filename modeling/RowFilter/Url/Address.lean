import RowFilter.Number.Reading

/-!
# Addresses as hosts

An address between brackets is eight numbers of sixteen bits in hexadecimal digits. Two colons in a
row stand for one or more zeros, and the last two numbers may be written as four decimal ones. It is
written with the first of the longest rows of two or more zeros left out. An address of four numbers
is only checked.
-/

namespace RowFilter.Url.Address

open Number Text

/-- A part of a written address. -/
inductive Part where
  /-- A number. -/
  | number (n : Nat)
  /-- Two colons in a row. -/
  | gap
  deriving DecidableEq

/-- The numbers of the parts. -/
def numbers : List Part → List Nat
  | [] => []
  | .number n :: rest => n :: numbers rest
  | .gap :: rest => numbers rest

/-- At most four hexadecimal digits that a text starts with, and the rest. -/
def spanHex (text : List Char) : List Nat × List Char :=
  let digits := ((text.take 4).takeWhile fun c => (hexValue? c).isSome).filterMap hexValue?
  (digits, text.drop digits.length)

/-- Reads a decimal number below 256 without leading zeros. -/
def readOctet? (text : List Char) : Option (Nat × List Char) :=
  match spanDigits text with
  | ([], _) => none
  | (first :: digits, rest) =>
    let n := positional 10 (first :: digits)
    if (first = 0 && !digits.isEmpty) || 255 < n then none else some (n, rest)

/-- Reads a decimal number below 256 after a point. -/
def readNextOctet? : List Char → Option (Nat × List Char)
  | '.' :: rest => readOctet? rest
  | _ => none

/-- Reads four decimal numbers, which end the text, as two of sixteen bits. -/
def readDecimals? (text : List Char) : Option (List Part) := do
  let (a, rest) ← readOctet? text
  let (b, rest) ← readNextOctet? rest
  let (c, rest) ← readNextOctet? rest
  let (d, rest) ← readNextOctet? rest
  if rest.isEmpty then return [.number (256 * a + b), .number (256 * c + d)] else none

/-- Reads parts. The first argument is how many more numbers may stand, a gap counting as one; the
second says whether a gap may still come. -/
def readParts? : Nat → Bool → List Char → Option (List Part)
  | _, _, [] => some []
  | 0, _, _ => none
  | places + 1, gapAllowed, ':' :: rest =>
    if gapAllowed then (readParts? places false rest).map (.gap :: ·) else none
  | places + 1, gapAllowed, text =>
    let (digits, rest) := spanHex text
    match rest with
    | [] => some [.number (positional 16 digits)]
    | ':' :: next =>
      if next.isEmpty then none
      else (readParts? places gapAllowed next).map (.number (positional 16 digits) :: ·)
    | '.' :: _ => if digits.isEmpty || places = 0 then none else readDecimals? text
    | _ => none

/-- Reads all parts; only a gap may come before the first number. -/
def readAllParts? : List Char → Option (List Part)
  | ':' :: ':' :: rest => (readParts? 7 false rest).map (.gap :: ·)
  | ':' :: _ => none
  | text => readParts? 8 true text

/-- The eight numbers of parts: a gap is as many zeros as are missing. -/
def expand? (parts : List Part) : Option (List Nat) :=
  let all := numbers parts
  if parts.contains .gap then
    let before := numbers (parts.takeWhile (· ≠ .gap))
    some (before ++ List.replicate (8 - all.length) 0 ++ all.drop before.length)
  else if all.length = 8 then some all
  else none

/-- Reads an address of eight numbers, without its brackets. -/
def read? (text : List Char) : Option (List Nat) := (readAllParts? text).bind expand?

/-- The length of the row of zeros that starts at each place. -/
def zeroRows : List Nat → List Nat
  | [] => []
  | n :: rest =>
    match zeroRows rest with
    | [] => [if n = 0 then 1 else 0]
    | row :: rows => (if n = 0 then row + 1 else 0) :: row :: rows

/-- Numbers in hexadecimal digits, between colons. -/
def colonSeparated : List Nat → List Char
  | [] => []
  | [n] => hexDigits n
  | n :: rest => hexDigits n ++ ':' :: colonSeparated rest

/-- Writes an address of eight numbers between brackets. -/
def write (address : List Nat) : List Char :=
  let rows := zeroRows address
  let longest := rows.foldl max 0
  let start := rows.idxOf longest
  let body :=
    if longest < 2 then colonSeparated address
    else
      colonSeparated (address.take start) ++
        ':' :: ':' :: colonSeparated (address.drop (start + longest))
  '[' :: body ++ [']']

/-- The pieces between points; a point at the end is passed over. -/
def labels (text : List Char) : List (List Char) :=
  let pieces := text.splitOn '.'
  if 1 < pieces.length && pieces.getLast? = some [] then pieces.dropLast else pieces

/-- A number of an address of at most four numbers: decimal, octal after a zero, or hexadecimal
after a zero and an x. -/
def readShortNumber? (text : List Char) : Option Nat :=
  let value? (base : Nat) (digits : List Char) : Option Nat :=
    let values := digits.filterMap hexValue?
    if values.length = digits.length && values.all (· < base) then some (positional base values)
    else none
  match text with
  | [] => none
  | '0' :: 'x' :: digits => value? 16 digits
  | '0' :: 'X' :: digits => value? 16 digits
  | '0' :: digits => value? 8 digits
  | digits => value? 10 digits

/-- Whether a host ends in a number, which makes it an address of at most four numbers. -/
def endsInNumber (text : List Char) : Bool :=
  match (labels text).getLast? with
  | none => false
  | some label => (!label.isEmpty && label.all Char.isDigit) || (readShortNumber? label).isSome

/-- Whether numbers are those of an address: all but the last below 256, and the last within the
rest. -/
def fitShort (values : List Nat) : Bool :=
  values.length ≤ 4 && values.dropLast.all (· < 256) &&
    values.getLast?.any (· < twoTo (8 * (5 - values.length)))

/-- Whether a host that ends in a number is a well-formed address of at most four numbers. -/
def isShort (text : List Char) : Bool :=
  let values := (labels text).map readShortNumber?
  values.all Option.isSome && fitShort (values.filterMap id)

end RowFilter.Url.Address
