import SampleTypes.Text.Ascii

/-!
# Faults in JSON texts

A fault has a cause and a place, which is told as a line, a column and a character position.  Lines end with
a line feed; lines and columns are counted from one, positions from zero.
-/

namespace SampleTypes.Json

/-- What is wrong at a place of a text. -/
inductive Cause
  | byteOrderMark
  | expectedValue
  | expectedName
  | expectedColon
  | expectedComma
  | extraData
  | controlCharacter
  | invalidEscape
  | invalidUnicodeEscape
  | unterminatedText
  deriving DecidableEq

def Cause.message : Cause → String
  | .byteOrderMark => "Unexpected UTF-8 BOM (decode using utf-8-sig)"
  | .expectedValue => "Expecting value"
  | .expectedName => "Expecting property name enclosed in double quotes"
  | .expectedColon => "Expecting ':' delimiter"
  | .expectedComma => "Expecting ',' delimiter"
  | .extraData => "Extra data"
  | .controlCharacter => "Invalid control character at"
  | .invalidEscape => "Invalid \\escape"
  | .invalidUnicodeEscape => "Invalid \\uXXXX escape"
  | .unterminatedText => "Unterminated string starting at"

inductive Fault
  /-- A cause at the place behind which `remaining` characters are left, that of the cause included. -/
  | syntactic (cause : Cause) (remaining : Nat)
  /-- An integer has more digits than are read. -/
  | tooManyDigits (digits : Nat)
  deriving DecidableEq

/-- A place in a text as line, column and position. -/
structure Place where
  line : Nat
  column : Nat
  position : Nat
  deriving DecidableEq

namespace Place

def of (characters : List Char) (position : Nat) : Place :=
  let before := characters.take position
  { line := before.count '\n' + 1
    column := (before.reverse.takeWhile (· != '\n')).length + 1
    position := position }

def describe (place : Place) : String :=
  "line " ++ toString place.line ++ " column " ++ toString place.column ++ " (char " ++
    toString place.position ++ ")"

example : of ['[', '\n', '1', ',', '\n', ']'] 5 = ⟨3, 1, 5⟩ := by decide

end Place

namespace Fault

def kind : Fault → String
  | .syntactic _ _ => "JSONDecodeError"
  | .tooManyDigits _ => "ValueError"

def message (characters : List Char) : Fault → String
  | .syntactic cause remaining =>
      cause.message ++ ": " ++ (Place.of characters (characters.length - remaining)).describe
  | .tooManyDigits digits =>
      "Exceeds the limit (" ++ toString Text.digitLimit ++
        " digits) for integer string conversion: value has " ++ toString digits ++
        " digits; use sys.set_int_max_str_digits() to increase the limit"

end Fault

end SampleTypes.Json
