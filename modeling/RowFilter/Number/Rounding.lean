import RowFilter.Number.Natural

/-!
# Rounding to binary floating point

A floating-point format with `fractionBits` and `exponentBits` represents the multiples of its least
positive number, its unit, that have at most `fractionBits + 1` significant bits. Read as numbers,
the bit patterns without sign count these multiples in order, so rounding a ratio is one division:
first find the power of two by which the representable numbers near the ratio are spaced, then
divide to nearest with ties to even.
-/

namespace RowFilter.Number

/-- A binary floating-point format. -/
structure BinaryFormat where
  /-- Bits of the fraction. -/
  fractionBits : Nat
  /-- Bits of the exponent. -/
  exponentBits : Nat

/-- The format of 64 bits. -/
def binary64 : BinaryFormat := ⟨52, 11⟩

/-- The format of 32 bits. -/
def binary32 : BinaryFormat := ⟨23, 8⟩

/-- The format's unit is two to the minus this. -/
def BinaryFormat.scale (format : BinaryFormat) : Nat :=
  twoTo (format.exponentBits - 1) - 2 + format.fractionBits

/-- The bits of infinity; larger patterns stand for no number. -/
def BinaryFormat.infinity (format : BinaryFormat) : Nat :=
  (twoTo format.exponentBits - 1) * twoTo format.fractionBits

/-- The number of units that bits without sign stand for. -/
def BinaryFormat.units (format : BinaryFormat) (bits : Nat) : Nat :=
  let exponent := bits / twoTo format.fractionBits
  let fraction := bits % twoTo format.fractionBits
  if exponent = 0 then fraction else (twoTo format.fractionBits + fraction) * twoTo (exponent - 1)

/-- The whole number nearest to `n / d`, the even one of two. -/
def nearestEven (n d : Nat) : Nat :=
  let quotient := n / d
  match compare (2 * (n % d)) d with
  | .lt => quotient
  | .gt => quotient + 1
  | .eq => quotient + quotient % 2

/-- The bits of the representable number nearest to `n / d`, the even one of two, or of infinity
beyond the greatest. -/
def BinaryFormat.ofRatio (format : BinaryFormat) (n d : Nat) : Nat :=
  let units := n * twoTo format.scale
  let spacing := (units / d).log2 - format.fractionBits
  min (spacing * twoTo format.fractionBits + nearestEven units (d * twoTo spacing)) format.infinity

end RowFilter.Number
