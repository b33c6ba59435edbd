import SampleTypes.Text.Hex
import SampleTypes.Text.Printable

/-!
# Quoted texts and byte strings

The form in which a text or a byte string appears inside the literal of a value.  The quote is a single one,
unless the content has a single quote and no double quote.  The quote in use is escaped; in a buffer the single
quote is escaped instead, also where it is not in use.
-/

namespace SampleTypes.Text.Quoted

/-- The quote around a content: the double one only where it saves escaping. -/
def quoteFor (characters : List Char) : Char :=
  if characters.contains '\'' && !characters.contains '"' then '"' else '\''

/-- The escaped form of a character by its code point: two, four or eight hexadecimal digits. -/
def escapePoint (point : Nat) : List Char :=
  if point < 0x100 then '\\' :: 'x' :: hexDigits 2 point
  else if point < 0x10000 then '\\' :: 'u' :: hexDigits 4 point
  else '\\' :: 'U' :: hexDigits 8 point

/-- The written form of one character; `escaped` and `printable` say which characters have a backslash in front
of them and which others may stand for themselves. -/
def writeChar (escaped printable : Char → Bool) (character : Char) : List Char :=
  if escaped character then ['\\', character]
  else if character = '\n' then ['\\', 'n']
  else if character = '\r' then ['\\', 'r']
  else if character = '\t' then ['\\', 't']
  else if printable character then [character]
  else escapePoint character.toNat

/-- The content between its quotes. -/
def write (escaped : Char → Char → Bool) (printable : Char → Bool) (characters : List Char) :
    List Char :=
  let quote := quoteFor characters
  quote :: characters.flatMap (writeChar (escaped quote) printable) ++ [quote]

/-- Escapes the quote in use and the backslash. -/
def quoteInUse (quote character : Char) : Bool :=
  character == quote || character == '\\'

/-- Escapes the single quote, whichever quote is in use, and the backslash. -/
def singleQuote (_ character : Char) : Bool :=
  character == '\'' || character == '\\'

def isPrintableAscii (character : Char) : Bool :=
  ' ' ≤ character && character ≤ '~'

def charactersOf (content : List UInt8) : List Char :=
  content.map fun byte => Char.ofNat byte.toNat

def text (content : String) : String :=
  String.ofList (write quoteInUse isPrintable content.toList)

/-- The literal of a byte string: printable ASCII stands for itself, other bytes are escaped. -/
def bytes (content : List UInt8) : String :=
  String.ofList ('b' :: write quoteInUse isPrintableAscii (charactersOf content))

/-- The literal of bytes that can be changed in place, inside the call of their kind. -/
def buffer (content : List UInt8) : String :=
  String.ofList ('b' :: write singleQuote isPrintableAscii (charactersOf content))

example : text "it's" = "\"it's\"" := by decide +kernel
example : text "it's \"x\"" = "'it\\'s \"x\"'" := by decide +kernel
example : buffer [39] = "b\"\\'\"" ∧ buffer [39, 34] = "b'\\'\"'" := by decide +kernel
example : bytes [0, 97, 255] = "b'\\x00a\\xff'" := by decide +kernel

end SampleTypes.Text.Quoted
