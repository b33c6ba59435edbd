import SampleTypes.Text.Hex

/-!
# Double-quoted string literals

A string literal stands between double quotes.  A quote, a backslash and the control characters below the
space are escaped; every other character, in whatever script, stands for itself, so a literal never contains
a line break.
-/

namespace SampleTypes.Text.StringLiteral

def encodeChar (character : Char) : List Char :=
  if character = '"' then ['\\', '"']
  else if character = '\\' then ['\\', '\\']
  else if character = '\n' then ['\\', 'n']
  else if character = '\r' then ['\\', 'r']
  else if character = '\t' then ['\\', 't']
  else if character = '\x08' then ['\\', 'b']
  else if character = '\x0c' then ['\\', 'f']
  else if character.toNat < 0x20 then '\\' :: 'u' :: hexDigits 4 character.toNat
  else [character]

/-- The written form of a text without the quotes around it. -/
def encodeChars (characters : List Char) : List Char :=
  characters.flatMap encodeChar

def encode (text : String) : String :=
  String.ofList ('"' :: encodeChars text.toList ++ ['"'])

example : encode "a\"b\\\n\x01é" = "\"a\\\"b\\\\\\n\\u0001é\"" := by decide +kernel

end SampleTypes.Text.StringLiteral
