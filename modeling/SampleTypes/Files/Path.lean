/-!
# Paths

A path names a file by the steps on the way to it, from the root or from the folder one is in.  Repeated
separators and steps that stay in place are not part of a path, and the path without steps is written as a
dot.  Exactly two separators in front are kept, although they lead to the root like any other number of them.
A step to the parent folder is a step like any other.
-/

namespace SampleTypes

/-- A path, from the root or from the current folder. -/
structure Path where
  /-- How many separators stand in front: none, or one or two for the root. -/
  leading : Nat
  steps : List String
  deriving DecidableEq

namespace Path

def parts (text : String) : List String :=
  (text.toList.splitOn '/').map String.ofList

/-- Whether a part stays in the folder it is taken in. -/
def staysInPlace (part : String) : Bool :=
  part == "" || part == "."

/-- Whether a text denotes a path from the root. -/
def startsAtRoot (text : String) : Bool :=
  text.toList.head? == some '/'

/-- The separators in front of a text that are kept. -/
def leadingIn (text : String) : Nat :=
  let count := (text.toList.takeWhile (· == '/')).length
  if 2 < count then 1 else count

def ofText (text : String) : Path :=
  { leading := leadingIn text
    steps := (parts text).filter fun part => !staysInPlace part }

/-- The path from the root with the given steps. -/
def ofRoot (steps : List String) : Path :=
  ⟨1, steps⟩

def text (path : Path) : String :=
  if path.leading = 0 ∧ path.steps = [] then "."
  else String.ofList (List.replicate path.leading '/') ++ String.intercalate "/" path.steps

example : (ofText "//a").text = "//a" ∧ (ofText "///a").text = "/a" := by decide +kernel
example : (ofText "./a//b/").text = "a/b" := by decide +kernel
example : (ofText "/").text = "/" ∧ (ofText "").text = "." := by decide +kernel

end Path

end SampleTypes
