/-!
# Type names and declarations

The name of a declared type is made of the ASCII letters and digits of a given text: each run of them starts
with an upper-case letter and everything between the runs is dropped.
-/

namespace SampleTypes.TypeName

/-- The maximal runs of ASCII letters and digits; `current` is the run that is being read, last first. -/
def runsFrom (current : List Char) : List Char → List (List Char)
  | [] => if current.isEmpty then [] else [current.reverse]
  | character :: characters =>
      if character.isAlphanum then runsFrom (character :: current) characters
      else if current.isEmpty then runsFrom [] characters
      else current.reverse :: runsFrom [] characters

def runs (characters : List Char) : List (List Char) :=
  runsFrom [] characters

def capitalize : List Char → List Char
  | [] => []
  | first :: rest => first.toUpper :: rest

/-- The type name made of a text: its capitalised runs, after an underscore if they start with a digit, or a
name of its own if there are none. -/
def ofText (text : String) : String :=
  match (runs text.toList).flatMap capitalize with
  | [] => "GeneratedType"
  | first :: rest =>
      String.ofList (if first.isDigit then '_' :: first :: rest else first :: rest)

/-- The declaration of a type of the given name and text. -/
def declaration (name text : String) : String :=
  "export type " ++ name ++ " = " ++ text ++ ";\n"

example : ofText "user profile" = "UserProfile" := by decide +kernel
example : ofText "2 x" = "_2X" ∧ ofText "é" = "GeneratedType" := by decide +kernel

end SampleTypes.TypeName
