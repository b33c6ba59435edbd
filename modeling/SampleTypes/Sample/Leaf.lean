import SampleTypes.Number.Exact
import SampleTypes.Text.Ascii
import SampleTypes.Text.Quoted
import SampleTypes.TypeExpr

/-!
# Leaves

The sample values without values inside them.  A leaf has a type, a name of its kind, a text by which it
serves as a key, and a literal by which it is put in order among the elements of a set.  Leaves that are equal
to themselves only carry a mark, which tells apart those that look alike.
-/

namespace SampleTypes

/-- A number other than a plain integer. -/
inductive Numeral
  | binary (number : Binary64)
  | decimal (number : DecimalReading)
  /-- A quotient in lowest terms with a positive denominator. -/
  | fraction (numerator : Int) (denominator : Nat)
  | complex (real imaginary : Binary64)
  deriving DecidableEq

/-- A sample value without values inside it. -/
inductive Leaf
  | null
  | undefined
  | boolean (value : Bool)
  /-- An integer, of the plain kind or of a named kind of integers. -/
  | integer (value : Int) (kind : String := "int")
  | numeral (value : Numeral) (mark : Nat := 0)
  /-- A text, of the plain kind or of a named kind of texts. -/
  | text (value : String) (kind : String := "str")
  | bytes (content : List UInt8)
  | buffer (content : List UInt8)
  /-- A bare object or a member of an enumeration.  A member may stand for a plain value, which it is then
  equal to, and the members of a flag enumeration are collections of themselves. -/
  | symbol (kind text literal : String) (standsFor : Option Leaf) (isFlag : Bool) (mark : Nat := 0)
  | function (kind literal : String) (mark : Nat := 0)
  /-- A record type, which is called to make records, with the defaults of its fields. -/
  | recordType (kind literal : String) (defaults : List (String × Leaf))
  /-- Anything else; nothing is known about its values. -/
  | other (kind literal : String) (mark : Nat := 0)

namespace Numeral

def kind : Numeral → String
  | .binary _ => "float"
  | .decimal _ => "Decimal"
  | .fraction _ _ => "Fraction"
  | .complex _ _ => "complex"

def text : Numeral → String
  | .binary number => number.text
  | .decimal number => number.text
  | .fraction numerator denominator =>
      if denominator = 1 then toString numerator
      else toString numerator ++ "/" ++ toString denominator
  | .complex real imaginary => Binary64.complexText real imaginary

/-- The literal of a number: its text, inside a call of its kind where the text alone reads otherwise. -/
def literal : Numeral → String
  | .decimal number => "Decimal('" ++ number.text ++ "')"
  | .fraction numerator denominator =>
      "Fraction(" ++ toString numerator ++ ", " ++ toString denominator ++ ")"
  | number => number.text

/-- The exact real and imaginary parts of a number. -/
def exact : Numeral → Exact × Exact
  | .binary number => (.ofBinary number, .ofInteger 0)
  | .decimal number => (.ofDecimal number, .ofInteger 0)
  | .fraction numerator denominator => (.ofFraction numerator denominator, .ofInteger 0)
  | .complex real imaginary => (.ofBinary real, .ofBinary imaginary)

end Numeral

namespace Leaf

/-- The integers between the negative of this number and itself are safe: a number represents each of them
exactly. -/
def greatestSafeInteger : Nat := Nat.pow 2 53 - 1

def type : Leaf → TypeExpr
  | .null => .primitive "null"
  | .undefined => .primitive "undefined"
  | .boolean _ => .primitive "boolean"
  | .integer value _ =>
      .primitive (if value.natAbs ≤ greatestSafeInteger then "number" else "bigint")
  | .numeral _ _ => .primitive "number"
  | .text _ _ => .primitive "string"
  | .symbol _ _ _ _ _ _ => .primitive "symbol"
  | .function _ _ _ | .recordType _ _ _ => .callable
  | .bytes _ | .buffer _ | .other _ _ _ => .unknown

def isArray : Leaf → Bool
  | .symbol _ _ _ _ isFlag _ => isFlag
  | _ => false

def kind : Leaf → String
  | .null => "NoneType"
  | .undefined => "_Undefined"
  | .boolean _ => "bool"
  | .integer _ name => name
  | .numeral value _ => value.kind
  | .text _ name => name
  | .bytes _ => "bytes"
  | .buffer _ => "bytearray"
  | .symbol name _ _ _ _ _ => name
  | .function name _ _ => name
  | .recordType name _ _ => name
  | .other name _ _ => name

def literal : Leaf → String
  | .null => "None"
  | .undefined => "UNDEFINED"
  | .boolean value => if value then "True" else "False"
  | .integer value _ => toString value
  | .numeral value _ => value.literal
  | .text value _ => Text.Quoted.text value
  | .bytes content => Text.Quoted.bytes content
  | .buffer content => "bytearray(" ++ Text.Quoted.buffer content ++ ")"
  | .symbol _ _ written _ _ _ => written
  | .function _ written _ => written
  | .recordType _ written _ => written
  | .other _ written _ => written

def keyText : Leaf → String
  | .numeral value _ => value.text
  | .text value _ => value
  | .symbol _ shown _ _ _ _ => shown
  | leaf => leaf.literal

/-- Whether a leaf holds an integer with more digits than are written. -/
def isTooLong : Leaf → Bool
  | .integer value _ => Text.isTooLong value.natAbs
  | .numeral (.fraction numerator denominator) _ =>
      Text.isTooLong numerator.natAbs || Text.isTooLong denominator
  | _ => false

def mark : Leaf → Nat
  | .numeral _ mark => mark
  | .symbol _ _ _ _ _ mark => mark
  | .function _ _ mark => mark
  | .other _ _ mark => mark
  | _ => 0

/-- The plain value that a leaf is equal to. -/
def plain : Leaf → Leaf
  | .symbol _ _ _ (some leaf) _ _ => leaf
  | leaf => leaf

/-- The exact real and imaginary parts of a leaf that is a number; truth values count as 0 and 1. -/
def amount? : Leaf → Option (Exact × Exact)
  | .boolean value => some (.ofInteger (if value then 1 else 0), .ofInteger 0)
  | .integer value _ => some (.ofInteger value, .ofInteger 0)
  | .numeral value _ => some value.exact
  | _ => none

/-- Whether two numbers are the very same object. -/
def isIdenticalNumber : Leaf → Leaf → Bool
  | .numeral left leftMark, .numeral right rightMark => left == right && leftMark == rightMark
  | _, _ => false

/-- Whether two leaves without a value are the very same object. -/
def isIdentical (left right : Leaf) : Bool :=
  left.kind == right.kind && left.literal == right.literal && left.mark == right.mark

/-- Whether two plain leaves are the same element of a set: numbers by value or else by identity, texts and
byte strings by content, all else by identity. -/
def samePlain (left right : Leaf) : Bool :=
  match left.amount?, right.amount? with
  | some leftParts, some rightParts =>
      (leftParts.1.same rightParts.1 && leftParts.2.same rightParts.2) || left.isIdenticalNumber right
  | none, none =>
    match left, right with
    | .text left _, .text right _ => left == right
    | .bytes left, .bytes right => left == right
    | .text _ _, _ | _, .text _ _ => false
    | .bytes _, _ | _, .bytes _ => false
    | left, right => left.isIdentical right
  | _, _ => false

def same (left right : Leaf) : Bool :=
  samePlain left.plain right.plain

end Leaf

end SampleTypes
