/-!
# Hexadecimal digits

Numbers written with a fixed count of lower-case hexadecimal digits, and the value of a digit in either
case.
-/

namespace SampleTypes.Text

/-- The lower-case digit of a number below sixteen. -/
def hexDigit (value : Nat) : Char :=
  if value < 10 then Char.ofNat ('0'.toNat + value) else Char.ofNat ('a'.toNat + (value - 10))

/-- The last `width` hexadecimal digits of a number, leading zeros included. -/
def hexDigits : Nat → Nat → List Char
  | 0, _ => []
  | width + 1, value => hexDigits width (value / 16) ++ [hexDigit (value % 16)]

/-- The value of a hexadecimal digit in either case. -/
def hexValue? (character : Char) : Option Nat :=
  if '0' ≤ character ∧ character ≤ '9' then some (character.toNat - '0'.toNat)
  else if 'a' ≤ character ∧ character ≤ 'f' then some (character.toNat - 'a'.toNat + 10)
  else if 'A' ≤ character ∧ character ≤ 'F' then some (character.toNat - 'A'.toNat + 10)
  else none

/-- The value of a sequence of hexadecimal digits, read from the most significant one. -/
def hexNumber? (characters : List Char) : Option Nat :=
  characters.foldl (fun value character => do
    return (← value) * 16 + (← hexValue? character)) (some 0)

example : hexDigits 4 0xe9 = ['0', '0', 'e', '9'] := by decide
example : hexNumber? ['0', '0', 'E', '9'] = some 0xe9 := by decide

end SampleTypes.Text
