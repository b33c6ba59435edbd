/-!
# Decimal numbers

A finite decimal is a sign, a coefficient and a power of ten; trailing zeros of the coefficient are kept, as
they show in its text.  An infinity and the undefined number have names.
-/

namespace SampleTypes

/-- The number `± coefficient · 10 ^ exponent`. -/
structure Decimal where
  negative : Bool
  coefficient : Nat
  exponent : Int
  deriving DecidableEq

namespace Decimal

/-- The digits of a natural number, from the most significant one. -/
def digits (number : Nat) : List Char :=
  Nat.toDigits 10 number

/-- The digits with a point before the digit at the given place; zeros fill the gap when the place lies
outside the digits, and there is no point behind the last digit. -/
def placePoint (digits : List Char) (place : Int) : List Char :=
  if place ≤ 0 then '0' :: '.' :: List.replicate (-place).toNat '0' ++ digits
  else if digits.length ≤ place.toNat then
    digits ++ List.replicate (place.toNat - digits.length) '0'
  else digits.take place.toNat ++ '.' :: digits.drop place.toNat

/-- A number with its sign, also the positive one. -/
def signed (number : Int) : List Char :=
  (if number < 0 then '-' else '+') :: digits number.natAbs

/-- The text of a decimal.  It is positional if the exponent is not positive and at most five zeros follow
the point, and has one digit before the point and a signed exponent otherwise. -/
def text (number : Decimal) : String :=
  let shown := digits number.coefficient
  let place := number.exponent + shown.length
  let body :=
    if number.exponent ≤ 0 ∧ -6 < place then placePoint shown place
    else placePoint shown 1 ++ if place = 1 then [] else 'E' :: signed (place - 1)
  String.ofList (if number.negative then '-' :: body else body)

example : text ⟨false, 150, -2⟩ = "1.50" := by decide +kernel
example : text ⟨false, 1, 3⟩ = "1E+3" ∧ text ⟨true, 3, 0⟩ = "-3" := by decide +kernel
example : text ⟨false, 1, -6⟩ = "0.000001" ∧ text ⟨false, 1, -7⟩ = "1E-7" := by decide +kernel

end Decimal

/-- A decimal number or one of the special ones: an infinity, or an undefined number, which may signal and
may carry a payload. -/
inductive DecimalReading
  | finite (number : Decimal)
  | infinite (negative : Bool)
  | undefined (negative : Bool) (signals : Bool := false) (payload : Nat := 0)
  deriving DecidableEq

namespace DecimalReading

/-- The text of a number; special numbers have names, and no payload is written as no digits. -/
def text : DecimalReading → String
  | .finite number => number.text
  | .infinite negative => if negative then "-Infinity" else "Infinity"
  | .undefined negative signals payload =>
      (if negative then "-" else "") ++ (if signals then "sNaN" else "NaN") ++
        if payload = 0 then "" else toString payload

end DecimalReading

end SampleTypes
