import SampleTypes.Number.Binary64
import SampleTypes.Text.Ascii

/-!
# Notation of numbers

How binary, decimal, rational and complex numbers are read.  All of them share the notation of a real number:
a sign, then digits with an optional point and an optional exponent, or the name of a special number.  They
differ in what may stand around and between the digits.
-/

namespace SampleTypes.Notation

open Text (digitsValue splitSign joinedDigits?)

/-- What follows a word of small letters at the front of a text, in which letters may be in either case. -/
def afterWord? (word characters : List Char) : Option (List Char) :=
  if (characters.take word.length).map Char.toLower = word then some (characters.drop word.length)
  else none

/-- The exponent at the front of a text, and what follows it; a mark without digits is no exponent. -/
def exponent (characters : List Char) : Int × List Char :=
  match characters with
  | mark :: rest =>
      let (negative, body) := splitSign rest
      let digits := body.takeWhile Char.isDigit
      if (mark = 'e' ∨ mark = 'E') ∧ !digits.isEmpty then
        let value : Int := digitsValue digits
        (if negative then -value else value, body.dropWhile Char.isDigit)
      else (0, characters)
  | [] => (0, [])

/-- The fraction behind a point at the front of a text, and what follows it. -/
def fraction : List Char → List Char × List Char
  | '.' :: rest => (rest.takeWhile Char.isDigit, rest.dropWhile Char.isDigit)
  | characters => ([], characters)

/-- The unsigned finite number at the front of a text, with a given sign, and what follows it. -/
def finite? (negative : Bool) (characters : List Char) : Option (Decimal × List Char) :=
  let whole := characters.takeWhile Char.isDigit
  let (fraction, rest) := fraction (characters.dropWhile Char.isDigit)
  if whole.isEmpty && fraction.isEmpty then none
  else
    let (exponent, rest) := exponent rest
    some (⟨negative, digitsValue (whole ++ fraction), exponent - fraction.length⟩, rest)

def real? (characters : List Char) : Option (DecimalReading × List Char) :=
  let (negative, body) := splitSign characters
  match finite? negative body, afterWord? "infinity".toList body, afterWord? "inf".toList body,
    afterWord? "nan".toList body with
  | some (number, rest), _, _, _ => some (.finite number, rest)
  | none, some rest, _, _ => some (.infinite negative, rest)
  | none, none, some rest, _ => some (.infinite negative, rest)
  | none, none, none, some rest => some (.undefined negative, rest)
  | none, none, none, none => none

def wholeReal? (characters : List Char) : Option DecimalReading :=
  match real? characters with
  | some (number, []) => some number
  | _ => none

def binary? (text : String) : Option Binary64 := do
  return .ofReading (← wholeReal? (← joinedDigits? ' ' (Text.plain text)))

/-- Whether a character is a blank of a wider kind, to which the separators of information belong. -/
def isWideBlank (character : Char) : Bool :=
  Text.isBlank character || ('\x1c' ≤ character && character ≤ '\x1f')

/-- An undefined number with the digits of a payload. -/
def undefined? (characters : List Char) : Option DecimalReading := do
  let (negative, body) := splitSign characters
  let (signals, named) := match body with
    | 's' :: rest | 'S' :: rest => (true, rest)
    | rest => (false, rest)
  let payload ← afterWord? "nan".toList named
  if payload.all Char.isDigit then return .undefined negative signals (digitsValue payload) else none

/-- The decimal that a text denotes; underscores do not count. -/
def decimal? (text : String) : Option DecimalReading :=
  let characters :=
    (Text.trim isWideBlank (text.toList.map Text.plainCharacter)).filter (· ≠ '_')
  (undefined? characters).or (wholeReal? characters)

def integer? (characters : List Char) : Option Int :=
  let (negative, digits) := splitSign characters
  if digits.isEmpty || !digits.all Char.isDigit then none
  else
    let value : Int := digitsValue digits
    some (if negative then -value else value)

/-- A quotient in lowest terms; its denominator is positive. -/
def lowestTerms (numerator : Int) (denominator : Nat) : Int × Nat :=
  let divisor := Nat.gcd numerator.natAbs denominator
  (numerator / divisor, denominator / divisor)

/-- The quotient that a text denotes, in lowest terms: two integers around a slash, or a finite number. -/
def quotient? (text : String) : Option (Int × Nat) := do
  let characters ←
    joinedDigits? ' ' (Text.trim isWideBlank (text.toList.map Text.plainCharacter))
  match characters.dropWhile (· ≠ '/') with
  | _ :: below => do
      let numerator ← integer? (characters.takeWhile (· ≠ '/'))
      if below.isEmpty || !below.all Char.isDigit || digitsValue below = 0 then none
      else return lowestTerms numerator (digitsValue below)
  | [] => do
      match ← wholeReal? characters with
      | .finite number =>
          let magnitude : Int := number.coefficient * Nat.pow 10 number.exponent.toNat
          return lowestTerms (if number.negative then -magnitude else magnitude)
            (Nat.pow 10 (-number.exponent).toNat)
      | _ => none

/-- The unit of a sign in front of the imaginary mark. -/
def signedUnit (negative : Bool) : Binary64 :=
  .ofDecimal ⟨negative, 1, 0⟩

/-- What follows the imaginary mark at the front of a text. -/
def afterMark? : List Char → Option (List Char)
  | 'j' :: rest | 'J' :: rest => some rest
  | _ => none

/-- The imaginary part with a sign in front at the front of a text, and what follows its mark. -/
def imaginary? (characters : List Char) : Option (Binary64 × List Char) :=
  match real? characters with
  | some (number, rest) => (afterMark? rest).map fun rest => (.ofReading number, rest)
  | none =>
      let (negative, body) := splitSign characters
      (afterMark? body).map fun rest => (signedUnit negative, rest)

/-- The parts of the complex number at the front of a text, and what follows it.  A part that is missing is
positive zero. -/
def parts? (characters : List Char) : Option ((Binary64 × Binary64) × List Char) :=
  let zero := Binary64.ofDecimal ⟨false, 0, 0⟩
  match real? characters with
  | none => (imaginary? characters).map fun (imaginary, rest) => ((zero, imaginary), rest)
  | some (number, rest) =>
    match rest with
    | '+' :: _ | '-' :: _ =>
        (imaginary? rest).map fun (imaginary, rest) => ((.ofReading number, imaginary), rest)
    | _ =>
      match afterMark? rest with
      | some rest => some ((zero, .ofReading number), rest)
      | none => some ((.ofReading number, zero), rest)

/-- The parts of the complex number that a text denotes; it may stand between parentheses. -/
def complex? (text : String) : Option (Binary64 × Binary64) := do
  let characters ← joinedDigits? ' ' (Text.plain text)
  match characters with
  | '(' :: inner =>
      let (parts, rest) ← parts? (inner.dropWhile Text.isBlank)
      if rest.dropWhile Text.isBlank = [')'] then return parts else none
  | _ =>
      let (parts, rest) ← parts? characters
      if rest.isEmpty then return parts else none

example : decimal? "-1_0.50e+3" = some (.finite ⟨true, 1050, 1⟩) := by decide +kernel
example : decimal? ".5" = some (.finite ⟨false, 5, -1⟩) ∧ decimal? "." = none := by decide +kernel
example : decimal? "-sNaN12" = some (.undefined true true 12) := by decide +kernel
example : quotient? "-6/4" = some (-3, 2) ∧ quotient? "1e-1" = some (1, 10) := by decide +kernel
example : complex? "-j" = some (.ofDecimal ⟨false, 0, 0⟩, .ofDecimal ⟨true, 1, 0⟩) := by decide +kernel

end SampleTypes.Notation
