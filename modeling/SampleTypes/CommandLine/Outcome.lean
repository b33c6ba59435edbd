import SampleTypes.CommandLine.Request
import SampleTypes.CommandLine.Samples
import SampleTypes.Declaration
import SampleTypes.Text.Terminal

/-!
# Outcomes

What comes of a request: lines that are printed, at most one new file, and the way it ends.  The declaration
is printed or goes to a new file; a target that is there already is refused before any input is read.  A
declaration that cannot be encoded is not printed, and leaves the new file empty.
-/

namespace SampleTypes.CommandLine

inductive Notice
  | alreadyThere (location : Location)
  | skipped (skip : Skip)
  | noSamples
  | declaration (text : String)
  | written (path : Path)

/-- The printed form of a notice; a declaration has a line break of its own. -/
def Notice.text : Notice → String
  | .alreadyThere location => "File already exists: " ++ (Path.ofRoot location).text ++ "\n"
  | .skipped skip => skip.message ++ "\n"
  | .noSamples => "No samples to infer a type from\n"
  | .declaration content => content
  | .written path => "Type definition written to " ++ path.text ++ "\n"

/-- A failure that is not told but ends everything. -/
inductive Crash
  | typing (fault : Fault)
  | file (fault : PathFault)
  | encoding (fault : Text.Unencodable)
  deriving DecidableEq

def Crash.message : Crash → String
  | .typing fault => fault.message
  | .file fault => fault.literal
  | .encoding fault => fault.message

inductive Ending
  | finished
  | refused
  /-- The arguments are no request. -/
  | stopped (stop : Stop)
  | crashed (crash : Crash)
  deriving DecidableEq

def Ending.exitCode : Ending → Nat
  | .finished => 0
  | .refused => 1
  | .stopped stop => stop.exitCode
  | .crashed _ => 1

/-- What comes of a request: the ending, the notices, the files afterwards, and the new one among them. -/
structure Outcome where
  ending : Ending
  notices : List Notice := []
  tree : FileTree
  added : Option (Path × String) := none

/-- All that is printed: the notices without control sequences, and with plain line breaks. -/
def Outcome.printed (outcome : Outcome) : String :=
  String.ofList (Text.withoutReturns
    (outcome.notices.flatMap fun notice => Text.withoutSequences notice.text.toList))

namespace Request

def printsDeclaration (request : Request) : Bool :=
  request.outputFile == some "-"

def targetName (request : Request) : String :=
  match request.outputFile with
  | none => request.typeName ++ ".ts"
  | some name => if name.isEmpty then request.typeName ++ ".ts" else name

def target (request : Request) : Path :=
  Path.ofText request.targetName

/-- Where the file for the declaration is already, if it matters. -/
def obstacle? (tree : FileTree) (request : Request) : Except PathFault (Option Location) :=
  if request.printsDeclaration then .ok none else tree.occupied? request.target

/-- What each input gives. -/
def contributions (tree : FileTree) (request : Request) : List Contribution :=
  request.inputs.map fun input => contribution tree request.spread (Path.ofText input)

def declare (request : Request) (document : Json.Document) : Typed String :=
  let (graph, value) := document.addTo {}
  graph.declaration request.settings request.typeName value

def deliver (tree : FileTree) (request : Request) (notices : List Notice) (declaration : String) :
    Outcome :=
  if request.printsDeclaration then
    match Text.unencodable? declaration with
    | some fault => { ending := .crashed (.encoding fault), notices := notices, tree := tree }
    | none =>
      { ending := .finished, notices := notices ++ [.declaration declaration], tree := tree }
  else
    match tree.write request.target declaration with
    | .error fault => { ending := .crashed (.file fault), notices := notices, tree := tree }
    | .ok (grown, fault?) =>
      let added := some (request.target, Text.encodedPart declaration)
      match fault? with
      | some fault =>
        { ending := .crashed (.encoding fault), notices := notices, tree := grown, added := added }
      | none =>
        { ending := .finished
          notices := notices ++ [.written request.target]
          tree := grown
          added := added }

/-- What comes of a request whose target is free. -/
def fulfil (tree : FileTree) (request : Request) : Outcome :=
  let contributions := request.contributions tree
  let notices := (allSkips contributions).map Notice.skipped
  match joined? request.spread (allSamples contributions) with
  | none => { ending := .refused, notices := notices ++ [.noSamples], tree := tree }
  | some document =>
    match request.declare document with
    | .error fault => { ending := .crashed (.typing fault), notices := notices, tree := tree }
    | .ok declaration => request.deliver tree notices declaration

/-- What comes of a request. -/
def outcome (tree : FileTree) (request : Request) : Outcome :=
  match request.obstacle? tree with
  | .error fault => { ending := .crashed (.file fault), tree := tree }
  | .ok (some location) => { ending := .refused, notices := [.alreadyThere location], tree := tree }
  | .ok none => request.fulfil tree

end Request

def Outcome.ofArguments (reader : ArgumentReader) (tree : FileTree) (arguments : List String) :
    Outcome :=
  match reader tree arguments with
  | .error stop => { ending := .stopped stop, tree := tree }
  | .ok request => request.outcome tree

end SampleTypes.CommandLine
