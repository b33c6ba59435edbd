import SampleTypes.Proofs.Tokens
import SampleTypes.TypeExpr

/-!
# Reading type syntax

What a text of type syntax says.  The brackets of an array bind tighter than the bar of a union, parentheses
group, and `Array<T>` says the same as `T[]`.  The result of a function type extends as far to the right as it
can, so a function type cannot stand behind a bar, and in front of one it takes the members behind it.  Beside
this reading there is a narrow one, in which the result of a function type is a single name: it gives back
what the layout meant, and so shows which types share a text.
-/

namespace SampleTypes

/-- What is written: a type without its layout.  The key of a property is its token, quotes and escapes
included. -/
inductive Written
  | name (name : String)
  | circular
  | function (result : Written)
  | record (key value : Written)
  | array (element : Written)
  | object (properties : List (Property Written))
  | union (members : List Written)

/-- How far the result of a function type extends. -/
inductive Scope
  /-- As far to the right as possible. -/
  | widest
  /-- To the end of the first type. -/
  | nearest
  deriving DecidableEq

namespace Grammar

def after? (mark : Char) : List Token → Option (List Token)
  | .mark character :: rest => if character = mark then some rest else none
  | _ => none

/-- The tokens of the result of a function type, if one begins here. -/
def result? : List Token → Option (List Token)
  | .mark '(' :: .mark ')' :: .arrow :: rest => some rest
  | _ => none

/-- The key that a token is, as it is written. -/
def key? : Token → Option String
  | .word letters => some (String.ofList letters)
  | .literal characters => some (String.ofList characters)
  | _ => none

def optional : List Token → Bool × List Token
  | .mark '?' :: rest => (true, rest)
  | tokens => (false, tokens)

/-- The type with all brackets of arrays that follow it, and the tokens behind them. -/
def suffixes (type : Written) : List Token → Written × List Token
  | .mark '[' :: .mark ']' :: rest => suffixes (.array type) rest
  | tokens => (type, tokens)

/-- The members of a union as one type; a single member stands for itself. -/
def joined (first : Written) (others : List Written) : Written :=
  if others.isEmpty then first else .union (first :: others)

mutual

/-- A type at the beginning of the tokens, and the tokens behind it. -/
def readType (scope : Scope) : Nat → List Token → Option (Written × List Token)
  | 0, _ => none
  | budget + 1, tokens =>
    match scope, result? tokens with
    | .widest, some body => do
        let (result, rest) ← readType scope budget body
        return (.function result, rest)
    | _, _ => do
        let (first, rest) ← readOperand scope budget tokens
        let (others, rest) ← readMembers scope budget rest
        return (joined first others, rest)

/-- The further members of a union, each behind a bar. -/
def readMembers (scope : Scope) : Nat → List Token → Option (List Written × List Token)
  | 0, _ => none
  | budget + 1, tokens =>
    match after? '|' tokens with
    | none => some ([], tokens)
    | some rest => do
        let (member, rest) ← readOperand scope budget rest
        let (others, rest) ← readMembers scope budget rest
        return (member :: others, rest)

/-- A type that is no union, with the brackets of arrays behind it. -/
def readOperand (scope : Scope) : Nat → List Token → Option (Written × List Token)
  | 0, _ => none
  | budget + 1, tokens => do
      let (type, rest) ← readPrimary scope budget tokens
      return suffixes type rest

/-- A name with its arguments, an object, or a type in parentheses. -/
def readPrimary (scope : Scope) : Nat → List Token → Option (Written × List Token)
  | 0, _ => none
  | budget + 1, tokens =>
    match scope, result? tokens with
    | .nearest, some body => do
        let (result, rest) ← readPrimary scope budget body
        return (.function result, rest)
    | _, _ =>
      match tokens with
      | .circular :: rest => some (.circular, rest)
      | .mark '(' :: rest => do
          let (type, rest) ← readType scope budget rest
          return (type, ← after? ')' rest)
      | .mark '\x7b' :: rest => do
          let (properties, rest) ← readProperties scope budget rest
          return (.object properties, rest)
      | .word letters :: rest =>
          if letters = ['A', 'r', 'r', 'a', 'y'] then do
            let (element, rest) ← readType scope budget (← after? '<' rest)
            return (.array element, ← after? '>' rest)
          else if letters = ['R', 'e', 'c', 'o', 'r', 'd'] then do
            let (key, rest) ← readType scope budget (← after? '<' rest)
            let (value, rest) ← readType scope budget (← after? ',' rest)
            return (.record key value, ← after? '>' rest)
          else some (.name (String.ofList letters), rest)
      | _ => none

/-- The properties up to the closing brace. -/
def readProperties (scope : Scope) : Nat → List Token → Option (List (Property Written) × List Token)
  | 0, _ => none
  | budget + 1, tokens =>
    match after? '\x7d' tokens, tokens with
    | some rest, _ => some ([], rest)
    | none, token :: rest => do
        let key ← key? token
        let (isOptional, rest) := optional rest
        let (value, rest) ← readType scope budget (← after? ':' rest)
        let (others, rest) ← readProperties scope budget (← after? ';' rest)
        return (⟨key, value, isOptional⟩ :: others, rest)
    | none, [] => none

end

def readTokens (scope : Scope) (tokens : List Token) : Option Written :=
  match readType scope (4 * tokens.length) tokens with
  | some (type, []) => some type
  | _ => none

def read (scope : Scope) (text : String) : Option Written := do
  readTokens scope (← Lexer.tokens? text.toList)

end Grammar

mutual

/-- Whether no union has a function type for a member. -/
def Written.FunctionsStandAlone : Written → Prop
  | .name _ | .circular => True
  | .function result => result.FunctionsStandAlone
  | .record key value => key.FunctionsStandAlone ∧ value.FunctionsStandAlone
  | .array element => element.FunctionsStandAlone
  | .object properties => Written.PropertyFunctionsStandAlone properties
  | .union members => Written.MemberFunctionsStandAlone members

def Written.MemberFunctionsStandAlone : List Written → Prop
  | [] => True
  | member :: members =>
      (∀ result, member ≠ .function result) ∧ member.FunctionsStandAlone ∧
        Written.MemberFunctionsStandAlone members

def Written.PropertyFunctionsStandAlone : List (Property Written) → Prop
  | [] => True
  | ⟨_, value, _⟩ :: properties =>
      value.FunctionsStandAlone ∧ Written.PropertyFunctionsStandAlone properties

end

namespace TypeExpr

/-- The key of a property as it is written, without a line break behind it. -/
def keyToken (key : String) : Token :=
  if PropertyName.standsBare key then .word (PropertyName.withoutFinalNewline key.toList)
  else .literal (Text.StringLiteral.encode key).toList

def writtenKey (key : String) : String :=
  if PropertyName.standsBare key then String.ofList (PropertyName.withoutFinalNewline key.toList)
  else Text.StringLiteral.encode key

/-- What the key of any record says. -/
def recordKey : Written :=
  .union [.name "string", .name "number", .name "symbol"]

mutual

/-- The type without depths and line breaks, and with its keys as they are written. -/
def written : TypeExpr → Written
  | .primitive name => .name name
  | .callable => .function (.name "unknown")
  | .circular => .circular
  | .record value => .record recordKey value.written
  | .array element => .array element.written
  | .object properties _ => .object (writtenProperties properties)
  | .union members _ _ => .union (writtenMembers members)

def writtenMembers : List TypeExpr → List Written
  | [] => []
  | member :: members => member.written :: writtenMembers members

def writtenProperties : List (Property TypeExpr) → List (Property Written)
  | [] => []
  | ⟨key, value, optional⟩ :: properties =>
      ⟨writtenKey key, value.written, optional⟩ :: writtenProperties properties

end

end TypeExpr

end SampleTypes
