import SampleTypes.Text.StringLiteral

/-!
# Property names

The key of an object as the name of a property.  An identifier or an array index is written as it is, any
other key as a string literal.  The test looks at a key without the one line break that may end it.
-/

namespace SampleTypes.PropertyName

/-- Whether a character may start an identifier: an ASCII letter, `_` or `$`. -/
def isIdentifierStart (character : Char) : Bool :=
  character.isAlpha || character == '_' || character == '$'

def isIdentifierPart (character : Char) : Bool :=
  isIdentifierStart character || character.isDigit

def isIdentifier : List Char → Bool
  | [] => false
  | first :: rest => isIdentifierStart first && rest.all isIdentifierPart

/-- Whether the characters form a decimal number without leading zeros. -/
def isIndex : List Char → Bool
  | [] => false
  | ['0'] => true
  | first :: rest => first.isDigit && first != '0' && rest.all Char.isDigit

/-- The characters without one line break at their end. -/
def withoutFinalNewline (characters : List Char) : List Char :=
  if characters.getLast? = some '\n' then characters.dropLast else characters

def standsBare (key : String) : Bool :=
  let body := withoutFinalNewline key.toList
  isIdentifier body || isIndex body

/-- The property name of a key. -/
def write (key : String) : String :=
  if standsBare key then key else Text.StringLiteral.encode key

example : write "name" = "name" ∧ write "10" = "10" := by decide +kernel
example : write "01" = "\"01\"" ∧ write "" = "\"\"" := by decide +kernel

end SampleTypes.PropertyName
