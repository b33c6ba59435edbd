import SampleTypes.Number.Binary64

/-!
# Exact comparison of numbers

Numbers of different kinds are compared by their exact values: no number is rounded to another format first.
The powers of two and five in a value are kept apart from the rest of it, so that values far outside every
format can be compared.  The undefined number is equal to none.
-/

namespace SampleTypes

/-- The exact value of a real number.  A finite one is `± numerator / denominator · 2 ^ twos · 5 ^ fives`,
where numerator and denominator have no factor in common with each other or with ten; zero is positive and
has no powers. -/
inductive Exact
  | finite (negative : Bool) (numerator denominator : Nat) (twos fives : Int)
  | infinite (negative : Bool)
  | undefined
  deriving DecidableEq

namespace Exact

/-- How often a base divides a number, and what is left of the number; at most `steps` divisions are tried. -/
def factorOut (base : Nat) : Nat → Nat → Nat × Nat
  | 0, number => (0, number)
  | steps + 1, number =>
      if number % base = 0 then
        let (count, rest) := factorOut base steps (number / base)
        (count + 1, rest)
      else (0, number)

/-- The powers of two and five in a positive number, and what is left of the number. -/
def split (number : Nat) : Nat × Nat × Nat :=
  let (twos, odd) := factorOut 2 (number.log2 + 1) number
  let (fives, rest) := factorOut 5 (odd.log2 + 1) odd
  (twos, fives, rest)

/-- The value of a quotient in lowest terms with powers of two and five. -/
def ofQuotient (negative : Bool) (numerator denominator : Nat) (twos fives : Int) : Exact :=
  if numerator = 0 then .finite false 0 1 0 0
  else
    let (twosAbove, fivesAbove, above) := split numerator
    let (twosBelow, fivesBelow, below) := split denominator
    .finite negative above below (twos + twosAbove - twosBelow) (fives + fivesAbove - fivesBelow)

def ofInteger (value : Int) : Exact :=
  ofQuotient (value < 0) value.natAbs 1 0 0

def ofFraction (numerator : Int) (denominator : Nat) : Exact :=
  ofQuotient (numerator < 0) numerator.natAbs denominator 0 0

def ofBinary : Binary64 → Exact
  | .finite negative mantissa exponent => ofQuotient negative mantissa 1 exponent 0
  | .infinite negative => .infinite negative
  | .undefined => .undefined

def ofDecimal : DecimalReading → Exact
  | .finite number =>
      ofQuotient number.negative number.coefficient 1 number.exponent number.exponent
  | .infinite negative => .infinite negative
  | .undefined _ _ _ => .undefined

def same (left right : Exact) : Bool :=
  left == right && left != .undefined

example : same (ofBinary (.finite false 1 (-1))) (ofFraction 1 2) = true := by decide
example : same (ofDecimal (.finite ⟨false, 10, 2⟩)) (ofInteger 1000) = true := by decide
example : same .undefined .undefined = false := by decide

end Exact

end SampleTypes
