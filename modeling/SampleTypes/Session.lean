import SampleTypes.Declaration
import SampleTypes.Files.Tree
import SampleTypes.Options

/-!
# Sessions

A session has default settings, named snapshots of settings, inspectors that infer types under settings of
their own, and a tree of files that it writes to.  Snapshots and inspectors never change, a file is written
at most once, and only the defaults are replaced.
-/

namespace SampleTypes

/-- Things filed under names. -/
abbrev Named (α : Type) := List (String × α)

structure Session where
  defaults : Settings := {}
  snapshots : Named Settings := []
  inspectors : Named Settings := []
  tree : FileTree := {}

/-- Under which settings a type is inferred. -/
inductive Target
  | defaults
  | snapshot (name : String)
  | inspector (name : String)

/-- A step of a session; a name is given to what the step makes if it is to be used later. -/
inductive Step
  | configure (options : List NamedOption)
  | takeSnapshot (name : Option String)
  | showSnapshot (name : String)
  | deriveSnapshot (base : String) (options : List NamedOption) (name : Option String)
  | newInspector (base : Option String) (options : List NamedOption) (name : Option String)
  | deriveInspector (base : String) (options : List NamedOption) (name : Option String)
  | showInspector (name : String)
  | infer (target : Target) (value : Value) (depth : Int) (mode : Option Value)
  | inferType (inspector : String) (value : Value) (depth : Int) (mode : Option Value)
  | declare (inspector typeName : String) (value : Value)
  | write (inspector : String) (path : Path) (typeName : String) (value : Value)
  | read (path : Path)

inductive StepFault
  | typing (fault : Fault)
  | options (fault : OptionFault)
  | file (fault : PathFault) (path : Path)
  | unknownName (name : String)
  deriving DecidableEq

def StepFault.message : StepFault → String
  | .typing fault => fault.message
  | .options fault => fault.message
  | .file fault path => fault.message path
  | .unknownName name => name

inductive Reply
  | settings (settings : Settings)
  | text (text : String)
  | type (type : TypeExpr)
  | content (content : Content)
  /-- A text was not written because it cannot be encoded. -/
  | unwritten (fault : Text.Unencodable)

/-- What the write of a declaration answers. -/
def Reply.ofWrite (declaration : String) : Option Text.Unencodable → Reply
  | none => .content (.text declaration)
  | some fault => .unwritten fault

namespace Session

def find {α : Type} (named : Named α) (name : String) : Except StepFault α :=
  match named.lookup name with
  | some found => .ok found
  | none => .error (.unknownName name)

/-- Files something under a name, if there is one; a later thing hides an earlier one of the same name. -/
def keep {α : Type} (name : Option String) (thing : α) (named : Named α) : Named α :=
  match name with
  | some name => (name, thing) :: named
  | none => named

/-- The outcome of typing as the outcome of a step. -/
def ofTyped {α : Type} (typed : Typed α) : Except StepFault α :=
  typed.mapError .typing

/-- The outcome of applying options as the outcome of a step. -/
def ofOptions {α : Type} (outcome : Except OptionFault α) : Except StepFault α :=
  outcome.mapError .options

/-- The outcome of using a path as the outcome of a step. -/
def ofPath {α : Type} (path : Path) (outcome : Except PathFault α) : Except StepFault α :=
  outcome.mapError (.file · path)

/-- The settings under which a target infers. -/
def settingsOf (session : Session) : Target → Except StepFault Settings
  | .defaults => .ok session.defaults
  | .snapshot name => find session.snapshots name
  | .inspector name => find session.inspectors name

/-- The session after a step that does not fail, and what the step answers.  A write does not fail any more once its
file is there. -/
def step (graph : Graph) (session : Session) : Step → Except StepFault (Session × Reply)
  | .configure options => do
      let settings ← ofOptions (session.defaults.updated graph options)
      return ({ session with defaults := settings }, .settings settings)
  | .takeSnapshot name =>
      .ok ({ session with snapshots := keep name session.defaults session.snapshots },
        .settings session.defaults)
  | .showSnapshot name => do
      return (session, .settings (← find session.snapshots name))
  | .deriveSnapshot base options name => do
      let settings ← ofOptions ((← find session.snapshots base).updated graph options)
      return ({ session with snapshots := keep name settings session.snapshots },
        .settings settings)
  | .newInspector base options name => do
      let start ← match base with
        | some base => find session.snapshots base
        | none => pure session.defaults
      let settings ← ofOptions
        (start.updated graph options [.inspector base.isSome, .update])
      return ({ session with inspectors := keep name settings session.inspectors },
        .settings settings)
  | .deriveInspector base options name => do
      let settings ← ofOptions
        ((← find session.inspectors base).updated graph options
          [.derivedInspector, .inspector true, .update])
      return ({ session with inspectors := keep name settings session.inspectors },
        .settings settings)
  | .showInspector name => do
      return (session, .settings (← find session.inspectors name))
  | .infer target value depth mode => do
      let settings ← ofOptions ((← session.settingsOf target).withMode graph mode)
      return (session, .text (← ofTyped (graph.inferText settings value depth)))
  | .inferType inspector value depth mode => do
      let settings ← ofOptions ((← find session.inspectors inspector).withMode graph mode)
      return (session, .type (← ofTyped (graph.infer settings value depth)))
  | .declare inspector typeName value => do
      let settings ← find session.inspectors inspector
      return (session, .text (← ofTyped (graph.declaration settings typeName value)))
  | .write inspector path typeName value => do
      let settings ← find session.inspectors inspector
      if (← ofPath path (session.tree.occupied? path)).isSome then throw (.file .taken path)
      let declaration ← ofTyped (graph.declaration settings typeName value)
      let (tree, fault?) ← ofPath path (session.tree.write path declaration)
      return ({ session with tree := tree }, .ofWrite declaration fault?)
  | .read path => do
      return (session, .content (← ofPath path (session.tree.read path)))

/-- The session after a step and the outcome of the step; a failed step changes nothing. -/
def perform (graph : Graph) (session : Session) (next : Step) :
    Session × Except StepFault Reply :=
  match session.step graph next with
  | .ok (session, reply) => (session, .ok reply)
  | .error fault => (session, .error fault)

/-- The session after several steps, and the outcome of each of them. -/
def run (graph : Graph) (session : Session) : List Step → Session × List (Except StepFault Reply)
  | [] => (session, [])
  | next :: steps =>
      let (session, outcome) := session.perform graph next
      let (session, outcomes) := session.run graph steps
      (session, outcome :: outcomes)

end Session

end SampleTypes
