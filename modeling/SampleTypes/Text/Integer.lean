import SampleTypes.Text.Ascii

/-!
# Integers in text

An integer may be written with decimal digits of any script, with a sign, with single underscores between the
digits and with blanks around it.
-/

namespace SampleTypes.Text

/-- The integer that a text denotes; there are limits to the number of its digits. -/
def integer? (text : String) : Option Int := do
  let (negative, body) := splitSign (plain text)
  let digits ← joinedDigits? ' ' body
  if digits.isEmpty || !digits.all Char.isDigit || digitLimit < digits.length then none
  else
    let value : Int := digitsValue digits
    return if negative then -value else value

example : integer? " +1_0 " = some 10 ∧ integer? "1__0" = none := by decide +kernel
example : integer? "" = none ∧ integer? "-٣" = some (-3) := by decide +kernel

end SampleTypes.Text
