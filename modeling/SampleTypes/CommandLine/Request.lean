import SampleTypes.Files.Tree
import SampleTypes.Settings

/-!
# Requests

A request says which inputs are typed, under which settings, and where the declaration goes.  Requests come from
the arguments of a command by way of a reader of arguments, which looks at the files as well and may answer the
arguments itself.
-/

namespace SampleTypes.CommandLine

/-- Which samples are to be typed, under which settings, and where the declaration goes. -/
structure Request where
  inputs : List String
  spread : Bool
  outputFile : Option String
  typeName : String
  settings : Settings
  deriving DecidableEq

def Request.defaultTypeName : String := "DetectedType"

/-- What a reader of arguments answers in place of a request: it ends everything with an exit code. -/
structure Stop where
  exitCode : Nat
  message : String
  deriving DecidableEq

/-- How arguments are read in front of the files that are there. -/
abbrev ArgumentReader := FileTree → List String → Except Stop Request

end SampleTypes.CommandLine
