import AppBundle.Number.Binary64

/-! # How a floating-point number is written

A `Layout` says which numbers are written without an exponent part. A number always shows a point
or an exponent, so that it is not mistaken for an integer.
-/

namespace AppBundle.Number

/-- The choices that the written form of a number leaves open. -/
structure Layout where
  /-- Positions of the leading digit for which no exponent is written. -/
  positional : Int → Bool

namespace Layout

/-- Digits with a point and without an exponent part. -/
def positionalText (digits : List Char) (exponent : Int) : List Char :=
  let pointAt : Int := digits.length + exponent
  if 0 ≤ exponent then digits ++ List.replicate exponent.toNat '0' ++ ['.', '0']
  else if 0 < pointAt then digits.take pointAt.toNat ++ ['.'] ++ digits.drop pointAt.toNat
  else ['0', '.'] ++ List.replicate (-pointAt).toNat '0' ++ digits

/-- One digit, the others behind a point, and the position of the first digit with its sign. -/
def scientificText (digits : List Char) (leading : Int) : List Char :=
  let others := digits.drop 1
  digits.take 1 ++ (if others.isEmpty then [] else '.' :: others) ++
    ['e', if 0 ≤ leading then '+' else '-'] ++ Nat.toDigits 10 leading.natAbs

/-- The written form of a decimal of either sign. -/
def write (layout : Layout) (negative : Bool) (decimal : Decimal) : String :=
  let sign := if negative then ['-'] else []
  if decimal.digits = 0 then String.ofList (sign ++ ['0', '.', '0'])
  else
    let decimal := decimal.normalize
    let digits := Nat.toDigits 10 decimal.digits
    let leading : Int := digits.length - 1 + decimal.exponent
    String.ofList <| sign ++
      if layout.positional leading then positionalText digits decimal.exponent
      else scientificText digits leading

end Layout

end AppBundle.Number
