/-!
# Natural numbers

Powers of two and of ten, and the total of a row of numbers.
-/

namespace RowFilter.Number

/-- Two to the given power. -/
def twoTo (exponent : Nat) : Nat := Nat.pow 2 exponent

/-- Ten to the given power. -/
def tenTo (exponent : Nat) : Nat := Nat.pow 10 exponent

/-- The total of some numbers, zero of none. -/
def total : List Nat → Nat
  | [] => 0
  | n :: rest => n + total rest

end RowFilter.Number
