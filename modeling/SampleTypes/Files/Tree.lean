import SampleTypes.Files.Path
import SampleTypes.Text.Encoding
import SampleTypes.Text.Quoted

/-!
# File trees

A file tree holds files by their locations.  The folders on the way to a file are there with it; further
folders may be empty.  A file is made or emptied before a text is written to it, so it is left empty by a text
that cannot be encoded.
-/

namespace SampleTypes

/-- The content of a file: a text, or bytes that may be no text. -/
inductive Content
  | text (content : String)
  | bytes (content : List UInt8)
  deriving DecidableEq

/-- Where something lies: the names on the way from the root. -/
abbrev Location := List String

inductive Entry
  | file (content : Content)
  | folder
  deriving DecidableEq

inductive PathFault
  | taken
  /-- There is nothing, or no folder for it to be in. -/
  | missing
  | throughFile
  | folder
  | nameTooLong
  /-- A name holds the null character, which ends texts elsewhere. -/
  | nullCharacter
  deriving DecidableEq

namespace PathFault

def kind : PathFault → String
  | .taken => "FileExistsError"
  | .missing => "FileNotFoundError"
  | .throughFile => "NotADirectoryError"
  | .folder => "IsADirectoryError"
  | .nameTooLong => "OSError"
  | .nullCharacter => "ValueError"

/-- The number and the wording of a fault, if it has a number. -/
def numbered? : PathFault → Option (Nat × String)
  | .taken => some (17, "File exists")
  | .missing => some (2, "No such file or directory")
  | .throughFile => some (20, "Not a directory")
  | .folder => some (21, "Is a directory")
  | .nameTooLong => some (36, "File name too long")
  | .nullCharacter => none

/-- What is said about a fault without a number. -/
def nullCharacterMessage : String := "embedded null byte"

/-- What is said about the use of a path; of a file that is there already only the path is told. -/
def message (path : Path) (fault : PathFault) : String :=
  if fault = .taken then path.text
  else
    match fault.numbered? with
    | some (number, wording) =>
        "[Errno " ++ toString number ++ "] " ++ wording ++ ": " ++ Text.Quoted.text path.text
    | none => nullCharacterMessage

def literal (fault : PathFault) : String :=
  fault.kind ++ "(" ++
    (match fault.numbered? with
    | some (number, wording) => toString number ++ ", " ++ Text.Quoted.text wording
    | none => Text.Quoted.text nullCharacterMessage) ++ ")"

end PathFault

/-- Files and folders by their locations, and the location that paths start from. -/
structure FileTree where
  files : List (Location × Content) := []
  folders : List Location := []
  here : Location := []

namespace FileTree

/-- What lies at a location; the root is always there. -/
def entry? (tree : FileTree) (location : Location) : Option Entry :=
  match tree.files.lookup location with
  | some content => some (.file content)
  | none =>
    if location.isEmpty || (tree.here :: tree.folders ++ tree.files.map (·.1)).any location.isPrefixOf then
      some .folder
    else none

/-- The greatest number of bytes in a name. -/
def nameLimit : Nat := 255

/-- The location that parts of a path lead to from a location.  Something must lie at every location on the
way, and a folder unless the way ends there. -/
def walk (tree : FileTree) (location : Location) : List String → Except PathFault Location
  | [] => .ok location
  | part :: parts =>
    match tree.entry? location with
    | none => .error .missing
    | some (.file _) => .error .throughFile
    | some .folder =>
      if Path.staysInPlace part then tree.walk location parts
      else if part = ".." then tree.walk location.dropLast parts
      else if nameLimit < part.utf8ByteSize then .error .nameTooLong
      else tree.walk (location ++ [part]) parts

/-- The greatest number of bytes in the text of a path. -/
def textLimit : Nat := 4095

/-- The location that a path leads to when it is spelled by a text and taken by parts; there may be nothing
at it. -/
def follow (tree : FileTree) (text : String) (parts : List String) : Except PathFault Location :=
  if text.toList.contains '\x00' then .error .nullCharacter
  else if textLimit < text.utf8ByteSize then .error .nameTooLong
  else tree.walk (if Path.startsAtRoot text then [] else tree.here) parts

/-- The location of a path, at which there may be nothing. -/
def locate (tree : FileTree) (path : Path) : Except PathFault Location :=
  tree.follow path.text path.steps

def entryAt (tree : FileTree) (location : Location) : Except PathFault Entry :=
  match tree.entry? location with
  | some entry => .ok entry
  | none => .error .missing

def find (tree : FileTree) (path : Path) : Except PathFault Entry := do
  tree.entryAt (← tree.locate path)

/-- What a text leads to as it is spelled: a separator at its end asks for a folder, and the empty text leads
nowhere. -/
def findSpelled (tree : FileTree) (text : String) : Except PathFault Entry := do
  if text.isEmpty then throw .missing
  tree.entryAt (← tree.follow text (Path.parts text))

/-- Where a path leads to something; a name that is too long is a fault even here. -/
def occupied? (tree : FileTree) (path : Path) : Except PathFault (Option Location) :=
  match tree.locate path with
  | .ok location => .ok (if (tree.entry? location).isSome then some location else none)
  | .error .nameTooLong => .error .nameTooLong
  | .error _ => .ok none

def read (tree : FileTree) (path : Path) : Except PathFault Content := do
  match ← tree.find path with
  | .file content => return content
  | .folder => throw .folder

/-- The tree with a file of the given content at a location, in place of one that is there. -/
def put (tree : FileTree) (location : Location) (content : Content) : FileTree :=
  { tree with files := tree.files.filter (·.1 != location) ++ [(location, content)] }

/-- Writes a text to the file that a path leads to, whatever the file holds, and tells why nothing is written if
the text cannot be encoded. -/
def write (tree : FileTree) (path : Path) (text : String) :
    Except PathFault (FileTree × Option Text.Unencodable) := do
  let location ← tree.locate path
  if tree.entry? location = some .folder then throw .folder
  return (tree.put location (.text (Text.encodedPart text)), Text.unencodable? text)

end FileTree

end SampleTypes
