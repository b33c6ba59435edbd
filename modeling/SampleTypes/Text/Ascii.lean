/-!
# Notation in ASCII

Numbers may be written with the digits of any script and with any blanks around them.  In the plain form of
such a notation every digit is an ASCII one and every blank outside ASCII is a space.
-/

namespace SampleTypes.Text

/-- The code points of the digit zero in every script that has decimal digits; the other nine digits follow
each of them. -/
def decimalZeros : List Nat :=
  [
    0x30, 0x660, 0x6f0, 0x7c0, 0x966, 0x9e6, 0xa66, 0xae6, 0xb66, 0xbe6, 0xc66, 0xce6, 0xd66,
    0xde6, 0xe50, 0xed0, 0xf20, 0x1040, 0x1090, 0x17e0, 0x1810, 0x1946, 0x19d0, 0x1a80, 0x1a90,
    0x1b50, 0x1bb0, 0x1c40, 0x1c50, 0xa620, 0xa8d0, 0xa900, 0xa9d0, 0xa9f0, 0xaa50, 0xabf0,
    0xff10, 0x104a0, 0x10d30, 0x11066, 0x110f0, 0x11136, 0x111d0, 0x112f0, 0x11450, 0x114d0,
    0x11650, 0x116c0, 0x11730, 0x118e0, 0x11950, 0x11c50, 0x11d50, 0x11da0, 0x16a60, 0x16ac0,
    0x16b50, 0x1d7ce, 0x1d7d8, 0x1d7e2, 0x1d7ec, 0x1d7f6, 0x1e140, 0x1e2f0, 0x1e950, 0x1fbf0
  ]

/-- The code points of the blank characters; the separators of information are not among them. -/
def blankPoints : List Nat :=
  [
    0x9, 0xa, 0xb, 0xc, 0xd, 0x20, 0x85, 0xa0, 0x1680, 0x2000, 0x2001, 0x2002, 0x2003, 0x2004,
    0x2005, 0x2006, 0x2007, 0x2008, 0x2009, 0x200a, 0x2028, 0x2029, 0x202f, 0x205f, 0x3000
  ]

def isBlank (character : Char) : Bool :=
  blankPoints.contains character.toNat

/-- The value of a decimal digit of any script. -/
def decimalValue? (character : Char) : Option Nat :=
  (decimalZeros.find? fun first => first ≤ character.toNat && character.toNat < first + 10).map
    (character.toNat - ·)

/-- The ASCII character that stands for a character in plain notation, if one does. -/
def plainCharacter (character : Char) : Char :=
  if character.toNat < 0x80 then character
  else
    match decimalValue? character with
    | some value => Char.ofNat ('0'.toNat + value)
    | none => if isBlank character then ' ' else character

/-- Drops the characters with a property from both ends. -/
def trim (property : Char → Bool) (characters : List Char) : List Char :=
  ((characters.dropWhile property).reverse.dropWhile property).reverse

def plain (text : String) : List Char :=
  trim isBlank (text.toList.map plainCharacter)

/-- The characters without the underscores, each of which must stand between two digits; `previous` is the
character in front of them. -/
def joinedDigits? (previous : Char) : List Char → Option (List Char)
  | [] => if previous = '_' then none else some []
  | character :: rest =>
      if character = '_' then
        if previous.isDigit then joinedDigits? '_' rest else none
      else if previous = '_' ∧ !character.isDigit then none
      else (joinedDigits? character rest).map (character :: ·)

def digitsValue (digits : List Char) : Nat :=
  digits.foldl (fun value digit => value * 10 + (digit.toNat - '0'.toNat)) 0

/-- The sign in front of a notation, and what follows it. -/
def splitSign : List Char → Bool × List Char
  | '-' :: rest => (true, rest)
  | '+' :: rest => (false, rest)
  | rest => (false, rest)

/-- The greatest number of digits of an integer that is read or written. -/
def digitLimit : Nat := 4300

/-- Whether a number has more digits than are written. -/
def isTooLong (number : Nat) : Bool :=
  Nat.pow 10 digitLimit ≤ number

/-- What is said where an integer with too many digits would be written. -/
def tooLongMessage : String :=
  "Exceeds the limit (" ++ toString digitLimit ++
    " digits) for integer string conversion; use sys.set_int_max_str_digits() to increase the limit"

/-- An integer as it is written, if it does not have too many digits. -/
def integerText? (value : Int) : Option String :=
  if isTooLong value.natAbs then none else some (toString value)

example : plain " ٣١\xa0" = ['3', '1'] := by decide +kernel
example : joinedDigits? ' ' ['1', '_', '0'] = some ['1', '0'] := by decide
example : joinedDigits? ' ' ['1', '_', '.'] = none ∧ joinedDigits? ' ' ['1', '_'] = none := by decide

end SampleTypes.Text
