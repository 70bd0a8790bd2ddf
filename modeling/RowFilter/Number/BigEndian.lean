import RowFilter.Number.Natural

/-!
# Whole numbers as octets

A whole number in a fixed number of octets, the most significant first; a negative number is written
as its complement. Reading gives back every number that fits.
-/

namespace RowFilter.Number.BigEndian

/-- The octets of the last `8 * count` bits of a number. -/
def octetsOfNat : Nat → Nat → List UInt8
  | 0, _ => []
  | count + 1, n => octetsOfNat count (n / 256) ++ [UInt8.ofNat (n % 256)]

/-- The number of octets. -/
def natOfOctets (octets : List UInt8) : Nat := octets.foldl (fun n octet => 256 * n + octet.toNat) 0

/-- The octets of a whole number that may be negative. -/
def octetsOfInt (count : Nat) (n : Int) : List UInt8 :=
  octetsOfNat count (n % (twoTo (8 * count) : Int)).toNat

/-- The whole number of octets, negative if their first bit is set. -/
def intOfOctets (octets : List UInt8) : Int :=
  (natOfOctets octets : Int).bmod (twoTo (8 * octets.length))

end RowFilter.Number.BigEndian
