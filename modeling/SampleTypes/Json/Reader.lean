import SampleTypes.Json.Document
import SampleTypes.Json.Fault
import SampleTypes.Number.Notation
import SampleTypes.Text.Encoding

/-!
# Reading JSON

The reader takes characters from the front of a text, so what is left of the text tells the place.  Beyond
the standard grammar it accepts `NaN`, `Infinity` and `-Infinity`; a number with a fraction or an exponent is
a floating-point number.  The first fault in reading order is reported.
-/

namespace SampleTypes.Json

/-- The outcome of reading; what was read comes with what is left of the text. -/
abbrev Outcome := Except Fault

def faultAt (cause : Cause) (rest : List Char) : Fault :=
  .syntactic cause rest.length

/-- Whether a character may stand between tokens. -/
def isBlank (character : Char) : Bool :=
  character == ' ' || character == '\t' || character == '\n' || character == '\r'

def skipBlanks (characters : List Char) : List Char :=
  characters.dropWhile isBlank

/-- What follows a word at the front of a text. -/
def afterWord? (word : String) (characters : List Char) : Option (List Char) :=
  if word.toList.isPrefixOf characters then some (characters.drop word.length) else none

/-! ## Texts -/

/-- The character that a letter behind a backslash denotes. -/
def simpleEscape? (letter : Char) : Option Char :=
  [('"', '"'), ('\\', '\\'), ('/', '/'), ('b', '\x08'), ('f', '\x0c'), ('n', '\n'), ('r', '\r'),
    ('t', '\t')].lookup letter

/-- The code unit written by the four hexadecimal digits behind a `u`; at least one character must follow
them. -/
def codeUnit (characters : List Char) : Outcome (Nat × List Char) :=
  let fault := Fault.syntactic .invalidUnicodeEscape (characters.length + 1)
  if characters.length ≤ 4 then .error fault
  else
    match Text.hexNumber? (characters.take 4) with
    | some unit => .ok (unit, characters.drop 4)
    | none => .error fault

def isHighSurrogate (unit : Nat) : Bool := 0xD800 ≤ unit && unit < 0xDC00

def isLowSurrogate (unit : Nat) : Bool := 0xDC00 ≤ unit && unit < 0xE000

/-- The character of a code unit; half a pair on its own denotes no character and is held by its stand-in. -/
def ofCodeUnit (unit : Nat) : Char :=
  if isHighSurrogate unit || isLowSurrogate unit then Text.standIn unit else Char.ofNat unit

def ofPair (high low : Nat) : Char :=
  Char.ofNat (0x10000 + (high - 0xD800) * 0x400 + (low - 0xDC00))

/-- The character written by hexadecimal digits behind a `u`, and by a second such escape if the first one is
half a pair. -/
def unicodeEscape (characters : List Char) : Outcome (Char × List Char) := do
  let (unit, rest) ← codeUnit characters
  match rest with
  | '\\' :: 'u' :: later =>
      if isHighSurrogate unit ∧ 4 < later.length then
        let (second, rest') ← codeUnit later
        if isLowSurrogate second then return (ofPair unit second, rest')
        else return (ofCodeUnit unit, rest)
      else return (ofCodeUnit unit, rest)
  | _ => return (ofCodeUnit unit, rest)

/-- The character denoted by an escape behind its backslash; `start` is the place of the text's quote. -/
def escape (start : Nat) : List Char → Outcome (Char × List Char)
  | [] => .error (.syntactic .unterminatedText start)
  | 'u' :: rest => unicodeEscape rest
  | letter :: rest =>
    match simpleEscape? letter with
    | some character => .ok (character, rest)
    | none => .error (.syntactic .invalidEscape (rest.length + 2))

/-- The characters up to the closing quote; the budget bounds the number of characters. -/
def textBody (start : Nat) : Nat → List Char → Outcome (List Char × List Char)
  | 0, _ | _, [] => .error (.syntactic .unterminatedText start)
  | budget + 1, character :: rest =>
      if character = '"' then .ok ([], rest)
      else if character = '\\' then do
        let (escaped, rest) ← escape start rest
        let (characters, rest) ← textBody start budget rest
        return (escaped :: characters, rest)
      else if character.toNat < 0x20 then
        .error (.syntactic .controlCharacter (rest.length + 1))
      else do
        let (characters, rest) ← textBody start budget rest
        return (character :: characters, rest)

def text (characters : List Char) : Outcome (String × List Char) := do
  let (content, rest) ← textBody (characters.length + 1) (characters.length + 1) characters
  return (String.ofList content, rest)

/-! ## Numbers -/

def digitsOf (characters : List Char) : List Char :=
  characters.takeWhile Char.isDigit

/-- The digits of a whole number: a zero, or digits that start with another one. -/
def wholeDigits (characters : List Char) : List Char :=
  match characters with
  | '0' :: _ => ['0']
  | _ => digitsOf characters

def fractionPart : List Char → List Char
  | '.' :: rest => if (digitsOf rest).isEmpty then [] else '.' :: digitsOf rest
  | _ => []

def exponentPart : List Char → List Char
  | mark :: rest =>
      if mark = 'e' ∨ mark = 'E' then
        let sign := match rest with
          | '+' :: _ => ['+']
          | '-' :: _ => ['-']
          | _ => []
        let digits := digitsOf (rest.drop sign.length)
        if digits.isEmpty then [] else mark :: sign ++ digits
      else []
  | [] => []

def floatOf (literal : List Char) : Binary64 :=
  match Notation.wholeReal? literal with
  | some reading => .ofReading reading
  | none => .undefined

def number (characters : List Char) : Outcome (Document × List Char) :=
  let sign := if characters.head? = some '-' then ['-'] else []
  let body := characters.drop sign.length
  let whole := wholeDigits body
  if whole.isEmpty then .error (faultAt .expectedValue characters)
  else
    let afterWhole := body.drop whole.length
    let fraction := fractionPart afterWhole
    let afterFraction := afterWhole.drop fraction.length
    let exponent := exponentPart afterFraction
    let rest := afterFraction.drop exponent.length
    if fraction.isEmpty && exponent.isEmpty then
      if Text.digitLimit < whole.length then .error (.tooManyDigits whole.length)
      else
        let value : Int := Text.digitsValue whole
        .ok (.integer (if sign.isEmpty then value else -value), rest)
    else .ok (.float (floatOf (sign ++ whole ++ fraction ++ exponent)), rest)

def words : List (String × Document) :=
  [("null", .null), ("true", .boolean true), ("false", .boolean false),
    ("NaN", .float .undefined), ("Infinity", .float (.infinite false)),
    ("-Infinity", .float (.infinite true))]

/-- A word or a number at the front of a text. -/
def scalar (characters : List Char) : Outcome (Document × List Char) :=
  match words.findSome? fun word =>
      (afterWord? word.1 characters).map fun rest => (word.2, rest) with
  | some result => .ok result
  | none => number characters

/-! ## Values -/

/-- A value in the middle of a list or an object, read at an earlier stage of the budget. -/
abbrev ValueReader := List Char → Outcome (Document × List Char)

def items (value : ValueReader) : Nat → List Char → Outcome (List Document × List Char)
  | 0, rest => .error (faultAt .expectedValue rest)
  | budget + 1, characters => do
      let (first, rest) ← value characters
      match skipBlanks rest with
      | ']' :: rest => return ([first], rest)
      | ',' :: rest =>
          let (others, rest) ← items value budget (skipBlanks rest)
          return (first :: others, rest)
      | rest => throw (faultAt .expectedComma rest)

def members (value : ValueReader) : Nat → List Char → Outcome (List (String × Document) × List Char)
  | 0, rest => .error (faultAt .expectedName rest)
  | budget + 1, characters => do
      match characters with
      | '"' :: rest =>
          let (name, rest) ← text rest
          match skipBlanks rest with
          | ':' :: rest =>
              let (first, rest) ← value (skipBlanks rest)
              match skipBlanks rest with
              | '\x7d' :: rest => return ([(name, first)], rest)
              | ',' :: rest =>
                  let (others, rest) ← members value budget (skipBlanks rest)
                  return ((name, first) :: others, rest)
              | rest => throw (faultAt .expectedComma rest)
          | rest => throw (faultAt .expectedColon rest)
      | rest => throw (faultAt .expectedName rest)

/-- A value at the front of a text, in which lists and objects are nested as deep as the budget says. -/
def value : Nat → ValueReader
  | _, [] => .error (.syntactic .expectedValue 0)
  | 0, rest => .error (faultAt .expectedValue rest)
  | budget + 1, characters =>
    match characters with
    | '"' :: rest => do
        let (content, rest) ← text rest
        return (.text content, rest)
    | '[' :: rest =>
      match skipBlanks rest with
      | ']' :: rest => .ok (.list [], rest)
      | rest => do
          let (items, rest) ← items (value budget) (rest.length + 1) rest
          return (.list items, rest)
    | '\x7b' :: rest =>
      match skipBlanks rest with
      | '\x7d' :: rest => .ok (.object [], rest)
      | rest => do
          let (members, rest) ← members (value budget) (rest.length + 1) rest
          return (Document.ofMembers members, rest)
    | characters => scalar characters

def read (characters : List Char) : Except Fault Document :=
  if characters.head? = some '\ufeff' then .error (faultAt .byteOrderMark characters)
  else do
    let (document, rest) ← value (characters.length + 1) (skipBlanks characters)
    match skipBlanks rest with
    | [] => return document
    | rest => throw (faultAt .extraData rest)

end SampleTypes.Json
