import SampleTypes.Number.Decimal

/-!
# Binary floating-point numbers

A finite number of the 64-bit binary format is a sign, a mantissa below `2 ^ 53` and a power of two.  A
decimal is read as the nearest of these numbers, ties going to the even mantissa, and a number is written
with the fewest digits that read back as the same number, nearest to it among those.  All arithmetic is on
natural numbers and exact.
-/

namespace SampleTypes

/-- A number of the 64-bit binary format; the finite ones are `± mantissa · 2 ^ exponent`. -/
inductive Binary64
  | finite (negative : Bool) (mantissa : Nat) (exponent : Int)
  | infinite (negative : Bool)
  | undefined
  deriving DecidableEq

namespace Binary64

def leastExponent : Int := -1074

def greatestExponent : Int := 971

/-- Numbers of this mantissa have a nearer neighbour below than above. -/
def leastNormalMantissa : Nat := Nat.pow 2 52

/-- The natural number nearest to a quotient, the even one of two. -/
def roundQuotient (numerator denominator : Nat) : Nat :=
  let quotient := numerator / denominator
  let remainder := numerator % denominator
  if 2 * remainder < denominator ∨ (2 * remainder = denominator ∧ quotient % 2 = 0) then quotient
  else quotient + 1

/-- The greatest power of two that is not above a quotient of positive numbers. -/
def binaryOrder (numerator denominator : Nat) : Int :=
  let guess : Int := (numerator.log2 : Int) - denominator.log2
  if denominator * Nat.pow 2 guess.toNat ≤ numerator * Nat.pow 2 (-guess).toNat then guess else guess - 1

/-- The number of the format that is nearest to a quotient. -/
def ofQuotient (negative : Bool) (numerator denominator : Nat) : Binary64 :=
  if numerator = 0 then .finite negative 0 leastExponent
  else
    let exponent := max (binaryOrder numerator denominator - 52) leastExponent
    let mantissa :=
      roundQuotient (numerator * Nat.pow 2 (-exponent).toNat) (denominator * Nat.pow 2 exponent.toNat)
    let (mantissa, exponent) :=
      if mantissa = Nat.pow 2 53 then (leastNormalMantissa, exponent + 1) else (mantissa, exponent)
    if greatestExponent < exponent then .infinite negative
    else .finite negative mantissa exponent

/-- The number of the format that is nearest to a decimal.  Decimals far outside the range of the format are
decided by their order of magnitude alone. -/
def ofDecimal (number : Decimal) : Binary64 :=
  let order := number.exponent + (Decimal.digits number.coefficient).length
  if number.coefficient = 0 ∨ order < -400 then .finite number.negative 0 leastExponent
  else if 400 < order then .infinite number.negative
  else
    ofQuotient number.negative (number.coefficient * Nat.pow 10 number.exponent.toNat)
      (Nat.pow 10 (-number.exponent).toNat)

def ofReading : DecimalReading → Binary64
  | .finite number => ofDecimal number
  | .infinite negative => .infinite negative
  | .undefined _ _ _ => .undefined

/-- The exponent of the first digit of a quotient of positive numbers in decimal notation. -/
def decimalOrder (numerator denominator : Nat) : Int :=
  if denominator ≤ numerator then
    ((Decimal.digits (numerator / denominator)).length : Int) - 1
  else
    -(Decimal.digits ((denominator + numerator - 1) / numerator - 1)).length

/-- The decimals that read back as a positive number: those between `lower` and `upper` over the common
denominator, the ends included if the mantissa is even. -/
structure ReadBack where
  lower : Nat
  value : Nat
  upper : Nat
  denominator : Nat
  closed : Bool

namespace ReadBack

def around (mantissa : Nat) (exponent : Int) : ReadBack :=
  let scale := Nat.pow 2 exponent.toNat
  let below := if mantissa = leastNormalMantissa ∧ exponent ≠ leastExponent then 1 else 2
  { lower := (4 * mantissa - below) * scale
    value := 4 * mantissa * scale
    upper := (4 * mantissa + 2) * scale
    denominator := 4 * Nat.pow 2 (-exponent).toNat
    closed := mantissa % 2 == 0 }

/-- Whether `coefficient · 10 ^ power` reads back. -/
def contains (interval : ReadBack) (coefficient : Nat) (power : Int) : Bool :=
  let position := coefficient * Nat.pow 10 power.toNat * interval.denominator
  let lower := interval.lower * Nat.pow 10 (-power).toNat
  let upper := interval.upper * Nat.pow 10 (-power).toNat
  if interval.closed then lower ≤ position && position ≤ upper
  else lower < position && position < upper

/-- The nearer one of the two neighbours of the value among the multiples of `10 ^ power`, if it reads
back; the even one if both are equally near. -/
def nearestMultiple? (interval : ReadBack) (power : Int) : Option Nat :=
  let numerator := interval.value * Nat.pow 10 (-power).toNat
  let denominator := interval.denominator * Nat.pow 10 power.toNat
  let below := numerator / denominator
  let preferred := roundQuotient numerator denominator
  let other := if preferred = below then below + 1 else below
  if interval.contains preferred power then some preferred
  else if interval.contains other power then some other
  else none

/-- The shortest decimal that reads back, starting with numbers of `count` digits whose first digit has
the exponent `order`; `more` numbers of digits are tried. -/
def shortestFrom (interval : ReadBack) (order : Int) : Nat → Nat → Nat × Int
  | 0, count =>
      let power := order - count + 1
      ((interval.nearestMultiple? power).getD 0, power)
  | more + 1, count =>
      let power := order - count + 1
      match interval.nearestMultiple? power with
      | some coefficient => (coefficient, power)
      | none => shortestFrom interval order more (count + 1)

end ReadBack

def withoutTrailingZeros (digits : List Char) : List Char :=
  (digits.reverse.dropWhile (· == '0')).reverse

/-- The shortest digits of a positive finite number, and the place of the point relative to the first digit.
At most seventeen digits are needed. -/
def shortestDigits (mantissa : Nat) (exponent : Int) : List Char × Int :=
  let interval := ReadBack.around mantissa exponent
  let order := decimalOrder interval.value interval.denominator
  let (coefficient, power) := interval.shortestFrom order 16 1
  let digits := Decimal.digits coefficient
  (withoutTrailingZeros digits, power + digits.length)

/-- The text of a positive finite number.  It is positional for decimal exponents from -4 to 15; `pointed`
says whether a whole number then ends in `.0`.  An exponent has a sign and at least two digits. -/
def magnitudeText (pointed : Bool) (mantissa : Nat) (exponent : Int) : List Char :=
  let (digits, place) := shortestDigits mantissa exponent
  if -4 < place ∧ place ≤ 16 then
    Decimal.placePoint digits place ++
      if pointed ∧ digits.length ≤ place.toNat then ['.', '0'] else []
  else
    let shown := Decimal.digits (place - 1).natAbs
    Decimal.placePoint digits 1 ++
      'e' :: (if place - 1 < 0 then '-' else '+') ::
        (if shown.length < 2 then '0' :: shown else shown)

def characters (pointed : Bool) : Binary64 → List Char
  | .undefined => ['n', 'a', 'n']
  | .infinite negative => if negative then ['-', 'i', 'n', 'f'] else ['i', 'n', 'f']
  | .finite negative mantissa exponent =>
      let body :=
        if mantissa = 0 then if pointed then ['0', '.', '0'] else ['0']
        else magnitudeText pointed mantissa exponent
      if negative then '-' :: body else body

def text (number : Binary64) : String :=
  String.ofList (number.characters true)

/-- Whether the number is negative; the undefined number is not, zero may be. -/
def isNegative : Binary64 → Bool
  | .finite negative _ _ => negative
  | .infinite negative => negative
  | .undefined => false

/-- The text of the complex number with the given parts.  A real part that is positive zero is left out;
otherwise both parts stand between parentheses. -/
def complexText (real imaginary : Binary64) : String :=
  let imaginaryText := imaginary.characters false ++ ['j']
  match real with
  | .finite false 0 _ => String.ofList imaginaryText
  | _ =>
      String.ofList
        ('(' :: real.characters false ++ (if imaginary.isNegative then [] else ['+']) ++
          imaginaryText ++ [')'])

end Binary64

end SampleTypes
