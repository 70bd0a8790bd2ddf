import RowFilter.Number.Rounding

/-!
# Doubles

A double is its 64 bits. A finite double is a whole number of units of two to the minus 1074, and
everything here is computed on that whole number: order, products and quotients are exact and
rounded once.
-/

namespace RowFilter.Number

/-- A number of 64 bits in binary floating point. -/
structure Double where
  /-- Sign, exponent and fraction. -/
  bits : UInt64
  deriving DecidableEq, Repr

namespace Double

/-- The double with the given sign and bits below the sign. -/
def ofParts (negative : Bool) (magnitude : Nat) : Double :=
  ⟨UInt64.ofNat ((if negative then twoTo 63 else 0) + magnitude)⟩

/-- Whether the sign bit is set. -/
def isNegative (x : Double) : Bool := twoTo 63 ≤ x.bits.toNat

/-- The bits below the sign. -/
def magnitudeBits (x : Double) : Nat := x.bits.toNat % twoTo 63

/-- Whether the double is a number other than the infinities. -/
def isFinite (x : Double) : Bool := x.magnitudeBits < binary64.infinity

/-- Whether the double is no number. -/
def isNaN (x : Double) : Bool := binary64.infinity < x.magnitudeBits

/-- The distance from zero, in units. -/
def magnitude (x : Double) : Nat := binary64.units x.magnitudeBits

/-- The value, in units. -/
def units (x : Double) : Int := if x.isNegative then -(x.magnitude : Int) else x.magnitude

/-- Whether the double is one of the two zeros. -/
def isZero (x : Double) : Bool := x.magnitudeBits == 0

/-- The double nearest to plus or minus `n / d`. -/
def ofRatio (negative : Bool) (n d : Nat) : Double := ofParts negative (binary64.ofRatio n d)

/-- The double nearest to a whole number. -/
def ofInt (n : Int) : Double := ofRatio (n < 0) n.natAbs 1

/-- The zero with the given sign. -/
def zero (negative : Bool) : Double := ofParts negative 0

/-- The double with the opposite sign. -/
def negate (x : Double) : Double := ofParts (!x.isNegative) x.magnitudeBits

/-- The infinity with the given sign. -/
def infinite (negative : Bool) : Double := ofParts negative binary64.infinity

/-- A double that is no number. -/
def notANumber : Double := ofParts false (binary64.infinity + twoTo 51)

/-- The product of two finite doubles, rounded. -/
def times (x y : Double) : Double :=
  ofRatio (x.isNegative != y.isNegative) (x.magnitude * y.magnitude) (twoTo (2 * binary64.scale))

/-- The quotient of two finite doubles, rounded; the divisor is not zero. -/
def dividedBy (x y : Double) : Double :=
  ofRatio (x.isNegative != y.isNegative) x.magnitude y.magnitude

/-- The order of two doubles; none if one is no number. -/
def compare? (x y : Double) : Option Ordering :=
  if x.isNaN || y.isNaN then none else some (compare x.units y.units)

/-- The value, if it is a whole number. -/
def whole? (x : Double) : Option Int :=
  if x.isFinite && x.magnitude % twoTo binary64.scale == 0 then
    let n : Int := x.magnitude / twoTo binary64.scale
    some (if x.isNegative then -n else n)
  else none

/-- The bits of the number of 32 bits nearest to a finite double. -/
def toBinary32 (x : Double) : UInt32 :=
  UInt32.ofNat
    ((if x.isNegative then twoTo 31 else 0) + binary32.ofRatio x.magnitude (twoTo binary64.scale))

/-- The double equal to a number of 32 bits; infinities and what is no number are kept apart from
the numbers. -/
def ofBinary32 (bits : UInt32) : Double :=
  let negative := decide (twoTo 31 ≤ bits.toNat)
  let magnitude := bits.toNat % twoTo 31
  if magnitude < binary32.infinity then
    ofRatio negative (binary32.units magnitude) (twoTo binary32.scale)
  else if magnitude = binary32.infinity then infinite negative
  else notANumber

end Double

end RowFilter.Number
