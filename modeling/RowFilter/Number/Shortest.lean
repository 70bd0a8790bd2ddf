import RowFilter.Number.Double

/-!
# The fewest digits that identify a double

The decimals that read back as a double lie between the midpoints to its two neighbours, the
midpoints included when the double is even. Among the decimals with one digit, then two, and so on,
the two nearest to the double are tried; the first row of digits with a hit is the shortest, and of
two hits the nearer is taken.

All numbers are scaled to whole numbers: by two to the 1074 for the doubles and by ten to the 400
for the decimals.
-/

namespace RowFilter.Number

/-- What happens when two decimals of the same length are equally near. -/
inductive Tie where
  /-- The one with the even last digit. -/
  | toEven
  /-- The greater one. -/
  | away
  deriving DecidableEq, Repr

/-- A positive decimal: `digits` times ten to the `exponent`. -/
structure Decimal where
  /-- The digits as a number. -/
  digits : Nat
  /-- The power of ten. -/
  exponent : Int
  deriving DecidableEq, Repr

/-- The power of ten by which decimals are scaled to whole numbers. -/
def decimalScale : Nat := 400

/-- The decimal digits of a number, most significant first. -/
def digitChars (n : Nat) : List Char := Nat.toDigits 10 n

/-- Decimals that may stand for a positive double: its value and the midpoints to its neighbours,
doubled and scaled. -/
structure Neighbourhood where
  /-- Twice the value. -/
  value : Nat
  /-- The lower end. -/
  low : Nat
  /-- The upper end. -/
  high : Nat
  /-- Whether the ends belong to it. -/
  closed : Bool

/-- The neighbourhood of the double with the given bits below the sign, which are not zero. -/
def neighbourhood (magnitudeBits : Nat) : Neighbourhood :=
  let units := binary64.units
  let scaled (n : Nat) : Nat := n * tenTo decimalScale
  ⟨scaled (2 * units magnitudeBits), scaled (units (magnitudeBits - 1) + units magnitudeBits),
    scaled (units magnitudeBits + units (magnitudeBits + 1)), magnitudeBits % 2 == 0⟩

/-- Whether a decimal, doubled and scaled, lies in the neighbourhood. -/
def Neighbourhood.holds (near : Neighbourhood) (point : Nat) : Bool :=
  if near.closed then near.low ≤ point && point ≤ near.high
  else near.low < point && point < near.high

/-- Of the two multiples of a step around the value, the one to write: a multiple in the
neighbourhood, the nearer of two, by the tie rule if they are equally near. -/
def Neighbourhood.pick? (near : Neighbourhood) (tie : Tie) (step : Nat) : Option Nat :=
  let below := near.value / step
  match near.holds (below * step), near.holds ((below + 1) * step) with
  | false, false => none
  | true, false => some below
  | false, true => some (below + 1)
  | true, true =>
    match compare (2 * near.value) ((2 * below + 1) * step), tie with
    | .lt, _ => some below
    | .gt, _ => some (below + 1)
    | .eq, .away => some (below + 1)
    | .eq, .toEven => some (below + below % 2)

/-- A decimal without trailing zeros; the given number bounds how many there are. -/
def stripZeros : Nat → Decimal → Decimal
  | 0, d => d
  | n + 1, d => if d.digits % 10 == 0 then stripZeros n ⟨d.digits / 10, d.exponent + 1⟩ else d

/-- Searches rows of digits of growing length: `left` rows remain, and the next has its last digit
at ten to `place`. -/
def searchDigits (near : Neighbourhood) (tie : Tie) : Nat → Int → Decimal
  | 0, place =>
    ⟨near.value / (twoTo (binary64.scale + 1) * tenTo (decimalScale + place).toNat), place⟩
  | left + 1, place =>
    match near.pick? tie (twoTo (binary64.scale + 1) * tenTo (decimalScale + place).toNat) with
    | some digits => stripZeros 20 ⟨digits, place⟩
    | none => searchDigits near tie left (place - 1)

/-- The decimal exponent of the leading digit of a positive double. -/
def leadingPlace (magnitudeBits : Nat) : Int :=
  (digitChars (binary64.units magnitudeBits * tenTo decimalScale / twoTo binary64.scale)).length
    - 1 - decimalScale

/-- The shortest decimal that reads back as the double with the given bits below the sign, which are
not zero. Seventeen digits are enough for every double; the search ends there. -/
def shortest (tie : Tie) (magnitudeBits : Nat) : Decimal :=
  searchDigits (neighbourhood magnitudeBits) tie 18 (leadingPlace magnitudeBits)

end RowFilter.Number
