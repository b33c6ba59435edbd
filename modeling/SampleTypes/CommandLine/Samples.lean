import SampleTypes.Files.Tree
import SampleTypes.Json.Reader
import SampleTypes.Text.Utf8

/-!
# Samples

The samples of a request are the documents in its input files or, when lists are spread, the items of the
lists in them.  An input that gives no samples is skipped, and what is typed depends on the samples alone.
-/

namespace SampleTypes.CommandLine

open Json (Document)

/-- Why an input is no document. -/
inductive ReadFault
  | file (fault : PathFault)
  /-- The bytes are no text. -/
  | encoding (bytes : List UInt8) (fault : Text.Utf8.Fault)
  /-- The characters are no document. -/
  | json (characters : List Char) (fault : Json.Fault)

def ReadFault.literal : ReadFault → String
  | .file fault => fault.literal
  | .encoding bytes fault =>
      "UnicodeDecodeError('utf-8', " ++ Text.Quoted.bytes bytes ++ ", " ++ toString fault.start ++ ", " ++
        toString fault.stop ++ ", " ++ Text.Quoted.text fault.cause.message ++ ")"
  | .json characters fault =>
      fault.kind ++ "(" ++ Text.Quoted.text (fault.message characters) ++ ")"

/-- The characters of a content, with every line break written as a line feed. -/
def charactersOf : Content → Except ReadFault (List Char)
  | .text content => .ok (Text.Utf8.withLineFeeds content.toList)
  | .bytes content =>
    match Text.Utf8.decode content with
    | .ok characters => .ok (Text.Utf8.withLineFeeds characters)
    | .error fault => .error (.encoding content fault)

def documentOf (content : Content) : Except ReadFault Document := do
  let characters ← charactersOf content
  (Json.read characters).mapError (.json characters)

def readDocument (tree : FileTree) (path : Path) : Except ReadFault Document := do
  documentOf (← (tree.read path).mapError .file)

/-- Why an input gives no samples. -/
inductive Skip
  | unreadable (path : Path) (fault : ReadFault)
  | notAList (path : Path)

def Skip.message : Skip → String
  | .unreadable path fault => "Error parsing data from " ++ path.text ++ ", ignoring: " ++ fault.literal
  | .notAList path => "Expected a JSON list in " ++ path.text ++ ", ignoring"

/-- What one input gives: samples, or a reason to skip it. -/
abbrev Contribution := Except Skip (List Document)

/-- The samples that a document gives: itself, or its items when lists are spread. -/
def samplesOf (spread : Bool) (path : Path) (document : Document) : Contribution :=
  if spread then
    match document with
    | .list items => .ok items
    | _ => .error (.notAList path)
  else .ok [document]

/-- What the file that a path leads to gives. -/
def contribution (tree : FileTree) (spread : Bool) (path : Path) : Contribution :=
  match readDocument tree path with
  | .ok document => samplesOf spread path document
  | .error fault => .error (.unreadable path fault)

def allSamples (contributions : List Contribution) : List Document :=
  contributions.flatMap fun contribution => contribution.toOption.getD []

/-- Why inputs are skipped, in order. -/
def allSkips (contributions : List Contribution) : List Skip :=
  contributions.filterMap fun contribution =>
    match contribution with
    | .ok _ => none
    | .error skip => some skip

/-- The value that samples stand for: a sample that is alone and comes from no list stands for itself, and
several are a list. -/
def joined? (spread : Bool) : List Document → Option Document
  | [] => none
  | [sample] => some (if spread then .list [sample] else sample)
  | samples => some (.list samples)

end SampleTypes.CommandLine
