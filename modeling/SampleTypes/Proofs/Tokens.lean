import SampleTypes.TypeExpr.PropertyName

/-!
# Tokens of a type's text

The tokens that a text of type syntax consists of.  Blanks and comments separate tokens and mean nothing,
with one exception: the comment `/* circular */` in front of the word `unknown` makes a token of its own.
The reader of tokens is a machine that takes one character at a time, so a text can be read piece by piece.
-/

namespace SampleTypes

inductive Token
  /-- An identifier or a number. -/
  | word (letters : List Char)
  /-- A string literal, quotes and escapes included. -/
  | literal (characters : List Char)
  | mark (character : Char)
  | arrow
  | circular
  deriving DecidableEq

namespace Lexer

/-- What the lexer is in the middle of. -/
inductive Mode
  | between
  | word (letters : List Char)
  | literal (characters : List Char)
  /-- Behind a backslash in a literal. -/
  | escape (characters : List Char)
  | equals
  | slash
  | comment (characters : List Char)
  | asterisk (characters : List Char)
  | failed
  deriving DecidableEq

end Lexer

/-- What has been read: the finished tokens, whether the comment of a circular reference came after them, and
what is unfinished. -/
structure Lexer where
  tokens : List Token
  marked : Bool := false
  mode : Lexer.Mode := .between
  deriving DecidableEq

namespace Lexer

def isBlank (character : Char) : Bool :=
  character ∈ [' ', '\n', '\t', '\r']

def isMark (character : Char) : Bool :=
  character ∈ ['(', ')', '[', ']', '\x7b', '\x7d', '<', '>', '|', ',', ';', ':', '?']

def unknownWord : List Char := ['u', 'n', 'k', 'n', 'o', 'w', 'n']

def circularComment : List Char := [' ', 'c', 'i', 'r', 'c', 'u', 'l', 'a', 'r', ' ']

def emit (lexer : Lexer) (token : Token) : Lexer :=
  { tokens := lexer.tokens ++ [token] }

def endWord (lexer : Lexer) (letters : List Char) : Lexer :=
  lexer.emit (if lexer.marked && letters == unknownWord then .circular else .word letters)

/-- The lexer behind the first character of a token or behind a blank. -/
def start (lexer : Lexer) (character : Char) : Lexer :=
  if isBlank character then { lexer with mode := .between }
  else if PropertyName.isIdentifierPart character then { lexer with mode := .word [character] }
  else if isMark character then lexer.emit (.mark character)
  else if character = '"' then { lexer with mode := .literal [character] }
  else if character = '/' then { lexer with mode := .slash }
  else if character = '=' then { lexer with mode := .equals }
  else { lexer with mode := .failed }

/-- The lexer behind one more character. -/
def step (lexer : Lexer) (character : Char) : Lexer :=
  match lexer.mode with
  | .between => lexer.start character
  | .word letters =>
      if PropertyName.isIdentifierPart character then
        { lexer with mode := .word (letters ++ [character]) }
      else (lexer.endWord letters).start character
  | .literal characters =>
      if character = '"' then lexer.emit (.literal (characters ++ [character]))
      else if character = '\\' then { lexer with mode := .escape (characters ++ [character]) }
      else if character = '\n' ∨ character = '\r' then { lexer with mode := .failed }
      else { lexer with mode := .literal (characters ++ [character]) }
  | .escape characters => { lexer with mode := .literal (characters ++ [character]) }
  | .equals => if character = '>' then lexer.emit .arrow else { lexer with mode := .failed }
  | .slash => { lexer with mode := if character = '*' then .comment [] else .failed }
  | .comment characters =>
      { lexer with
        mode := if character = '*' then .asterisk characters else .comment (characters ++ [character]) }
  | .asterisk characters =>
      if character = '/' then
        { lexer with marked := characters == circularComment, mode := .between }
      else if character = '*' then { lexer with mode := .asterisk (characters ++ ['*']) }
      else { lexer with mode := .comment (characters ++ ['*', character]) }
  | .failed => lexer

def run (lexer : Lexer) (characters : List Char) : Lexer :=
  characters.foldl step lexer

/-- The lexer with a word at the end finished. -/
def settled (lexer : Lexer) : Lexer :=
  match lexer.mode with
  | .word letters => lexer.endWord letters
  | _ => lexer

/-- The tokens of a text, if it consists of tokens. -/
def tokens? (characters : List Char) : Option (List Token) :=
  let final := (run { tokens := [] } characters).settled
  if final.mode = .between then some final.tokens else none

theorem run_append (lexer : Lexer) (first second : List Char) :
    lexer.run (first ++ second) = (lexer.run first).run second :=
  List.foldl_append

theorem run_cons (lexer : Lexer) (character : Char) (characters : List Char) :
    lexer.run (character :: characters) = (lexer.step character).run characters :=
  rfl

/-- A character that cannot continue a word finds the word before it finished. -/
theorem step_eq_step_settled {lexer : Lexer} {character : Char}
    (notPart : PropertyName.isIdentifierPart character = false)
    (calm : lexer.settled.mode = .between) :
    lexer.step character = lexer.settled.step character := by
  obtain ⟨tokens, marked, mode⟩ := lexer
  cases mode with
  | word letters => simp [step, settled, notPart, endWord, emit]
  | between => rfl
  | literal characters => cases calm
  | escape characters => cases calm
  | equals => cases calm
  | slash => cases calm
  | comment characters => cases calm
  | asterisk characters => cases calm
  | failed => cases calm

/-- Reading goes on behind a finished piece as if nothing came before it, save for its tokens. -/
theorem run_append_of_settled {lexer : Lexer} {tokens : List Token} {first : List Char}
    (finished : (lexer.run first).settled = { tokens := tokens }) {character : Char}
    (notPart : PropertyName.isIdentifierPart character = false) (others : List Char) :
    lexer.run (first ++ character :: others) =
      (Lexer.mk tokens false .between).run (character :: others) := by
  rw [run_append, run_cons, run_cons, step_eq_step_settled notPart (by rw [finished]), finished]

theorem run_blanks (tokens : List Token) {blanks : List Char}
    (allBlank : ∀ character ∈ blanks, isBlank character = true) :
    (Lexer.mk tokens false .between).run blanks = ⟨tokens, false, .between⟩ := by
  induction blanks with
  | nil => rfl
  | cons blank blanks induction =>
      have isBlank := allBlank blank (by simp)
      rw [run_cons]
      simp only [step, start, isBlank, if_true]
      exact induction fun character member => allBlank character (by simp [member])

private theorem run_word_from (tokens : List Token) (letters : List Char) {others : List Char}
    (allParts : ∀ character ∈ others, PropertyName.isIdentifierPart character = true) :
    (Lexer.mk tokens false (.word letters)).run others =
      ⟨tokens, false, .word (letters ++ others)⟩ := by
  induction others generalizing letters with
  | nil => simp [run]
  | cons other others induction =>
      rw [run_cons]
      simp only [step, allParts other (by simp), if_true]
      rw [induction _ fun character member => allParts character (by simp [member])]
      simp

theorem isBlank_eq_false_of_part {character : Char}
    (isPart : PropertyName.isIdentifierPart character = true) : isBlank character = false := by
  cases blank : isBlank character with
  | false => rfl
  | true =>
      simp only [isBlank, List.mem_cons, List.not_mem_nil, or_false, decide_eq_true_eq] at blank
      rcases blank with rfl | rfl | rfl | rfl <;> revert isPart <;> decide

theorem run_word (tokens : List Token) {letters : List Char} (nonempty : letters ≠ [])
    (allParts : ∀ character ∈ letters, PropertyName.isIdentifierPart character = true) :
    (Lexer.mk tokens false .between).run letters = ⟨tokens, false, .word letters⟩ := by
  cases letters with
  | nil => exact absurd rfl nonempty
  | cons letter letters =>
      have isPart := allParts letter (by simp)
      rw [run_cons]
      simp only [step, start, isBlank_eq_false_of_part isPart, isPart, if_true, Bool.false_eq_true,
        if_false]
      rw [run_word_from tokens [letter] fun character member => allParts character (by simp [member])]
      rfl

/-- A word is finished where it ends. -/
theorem settled_run_word (tokens : List Token) {letters : List Char} (nonempty : letters ≠ [])
    (allParts : ∀ character ∈ letters, PropertyName.isIdentifierPart character = true) :
    ((Lexer.mk tokens false .between).run letters).settled =
      { tokens := tokens ++ [.word letters] } := by
  rw [run_word tokens nonempty allParts]
  rfl

end Lexer

end SampleTypes
