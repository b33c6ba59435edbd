/-!
# Text for other places than a terminal

Control sequences tell a terminal how to show the text between them.  They start with the escape character and
a bracket, go on with parameters, and end with a letter.  Text that goes elsewhere is written without them.
-/

namespace SampleTypes.Text

/-- The character that starts a control sequence. -/
def escapeCharacter : Char := '\x1b'

/-- Whether a character may be a parameter of a control sequence. -/
def isParameter (character : Char) : Bool :=
  character == ';' || character == '?' || character.isDigit

/-- The characters without control sequences; `held` are the last characters, in reverse, if they may be the
start of one. -/
def withoutSequencesFrom (held : List Char) : List Char → List Char
  | [] => held.reverse
  | character :: rest =>
      if character = escapeCharacter then
        held.reverse ++ withoutSequencesFrom [character] rest
      else
        match held with
        | [] => character :: withoutSequencesFrom [] rest
        | [_] =>
            if character = '[' then withoutSequencesFrom (character :: held) rest
            else held.reverse ++ character :: withoutSequencesFrom [] rest
        | _ :: _ :: _ =>
            if isParameter character then withoutSequencesFrom (character :: held) rest
            else if character.isAlpha then withoutSequencesFrom [] rest
            else held.reverse ++ character :: withoutSequencesFrom [] rest

def withoutSequences (characters : List Char) : List Char :=
  withoutSequencesFrom [] characters

/-- The characters with each pair of carriage return and line feed written as a line feed. -/
def withoutReturns : List Char → List Char
  | [] => []
  | '\r' :: '\n' :: rest => '\n' :: withoutReturns rest
  | character :: rest => character :: withoutReturns rest

example : withoutSequences "a\x1b[1;2mb\x1b[12".toList = "ab\x1b[12".toList := by decide +kernel
example : withoutSequences "\x1b\x1b[?25l]".toList = "\x1b]".toList := by decide +kernel

end SampleTypes.Text
