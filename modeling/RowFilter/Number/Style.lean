import RowFilter.Number.Shortest

/-!
# How doubles are written

Two styles are in use. Documents write doubles so that they stay doubles when read again: with a
point, and with an exponent far from one. Statements and messages write every finite double
positionally and a whole one without a point.
-/

namespace RowFilter.Number

/-- The decisions of a style of writing doubles. -/
structure Style where
  /-- Which of two equally near decimals is written. -/
  tie : Tie
  /-- The exponents of the leading digit, from the first up to but not including the second, for
  which no exponent is written; with none, an exponent is never written. -/
  positional : Option (Int × Int)
  /-- Whether a whole number keeps a point and a zero. -/
  keepsPoint : Bool

/-- Doubles in documents: positional from `1e-5` up to `1e16`, always recognisable as doubles. -/
def documentStyle : Style where
  tie := .toEven
  positional := some (-5, 16)
  keepsPoint := true

/-- Doubles in statements and messages: never an exponent, no point in whole numbers. -/
def plainStyle : Style where
  tie := .away
  positional := none
  keepsPoint := false

/-- Digits with the point at its place and no exponent. -/
def Style.layPositional (style : Style) (digits : List Char) (exponent : Int) : List Char :=
  if 0 ≤ exponent then
    digits ++ List.replicate exponent.toNat '0' ++ (if style.keepsPoint then ['.', '0'] else [])
  else
    let places := (-exponent).toNat
    if places < digits.length then
      digits.take (digits.length - places) ++ '.' :: digits.drop (digits.length - places)
    else
      '0' :: '.' :: List.replicate (places - digits.length) '0' ++ digits

/-- Digits with the point after the first and an exponent that always has a sign. -/
def layScientific (digits : List Char) (leading : Int) : List Char :=
  digits.take 1 ++ (if digits.length ≤ 1 then [] else '.' :: digits.drop 1)
    ++ 'e' :: (if leading < 0 then '-' else '+') :: digitChars leading.natAbs

/-- A finite double in the style. -/
def Style.writeFinite (style : Style) (x : Double) : List Char :=
  (if x.isNegative then ['-'] else []) ++
  if x.isZero then '0' :: (if style.keepsPoint then ['.', '0'] else [])
  else
    let decimal := shortest style.tie x.magnitudeBits
    let digits := digitChars decimal.digits
    let leading : Int := decimal.exponent + digits.length - 1
    match style.positional with
    | none => style.layPositional digits decimal.exponent
    | some (first, beyond) =>
      if first ≤ leading && leading < beyond then style.layPositional digits decimal.exponent
      else layScientific digits leading

/-- A double as statements and messages show it. -/
def Double.display (x : Double) : String :=
  if x.isNaN then "NaN"
  else if x.isFinite then String.ofList (plainStyle.writeFinite x)
  else if x.isNegative then "-inf"
  else "inf"

end RowFilter.Number
