import SampleTypes.Typing.ArrayUnion

/-!
# Inference

The type of a sample value.  A container that is met again inside itself is typed as circular, so at most as
many containers are open at once as the graph has, and a typer that may open one more than that never runs
out.
-/

namespace SampleTypes

namespace Inference

/-- The type of an object, the values in which are left to the typer.  Values whose keys have the same text
share a property. -/
def object (graph : Graph) (settings : Settings) (typer : Typer) (opened : List Address)
    (depth : Int) (node : Node) : Typed TypeExpr := do
  let properties ← (← graph.entriesOfNode node).mapM fun entry => do
    let types ← entry.2.mapM (typer.infer opened (depth + 1))
    return ⟨entry.1, .unionOf (TypeExpr.distinctByText settings types), false⟩
  return if properties.isEmpty then .emptyObject else .object properties depth

/-- The type of an array, the elements of which are left to the typer. -/
def array (graph : Graph) (settings : Settings) (typer : Typer) (opened : List Address)
    (depth : Int) (node : Node) : Typed TypeExpr := do
  let elements ← graph.elements node
  if elements.isEmpty then return .emptyArray
  ArrayUnion.ofKind graph settings typer opened depth (.ofElements graph opened elements) elements

/-- The type of a value, the parts of which are left to the typer. -/
def value (graph : Graph) (settings : Settings) (typer : Typer) (opened : List Address)
    (depth : Int) : Value → Typed TypeExpr
  | .leaf leaf => .ok leaf.type
  | .container address =>
    match graph.node? address with
    | none => .ok .unknown
    | some node =>
      if address ∈ opened then .ok .circular
      else if node.isObject then object graph settings typer (address :: opened) depth node
      else array graph settings typer (address :: opened) depth node

/-- Whether the elements of an array are merged when the array is a value of a merged object: it holds as a
condition and has no elements but objects that are not open. -/
def isMergedArray (graph : Graph) (opened : List Address) (node : Node) : Bool :=
  !node.isObject && node.isTrue &&
    node.members.all fun element => graph.isObject element && !element.isOpen opened

/-- The type that a value contributes to a merged object, the parts of the value being left to the typer. -/
def contribution (graph : Graph) (settings : Settings) (typer : Typer) (opened : List Address)
    (depth : Int) : Value → Typed TypeExpr
  | .leaf leaf => .ok leaf.type
  | .container address =>
    match graph.node? address with
    | none => .ok .unknown
    | some node =>
      if address ∈ opened then .ok .circular
      else if isMergedArray graph opened node then
        return .array
          (← Merge.shapes graph settings typer (address :: opened) depth node.members)
      else if node.isObject then
        Merge.shapes graph settings typer opened depth [.container address]
      else array graph settings typer (address :: opened) depth node

/-- The typer that may open as many containers at once as the budget says. -/
def typer (graph : Graph) (settings : Settings) : Nat → Typer
  | 0 => .exhausted
  | budget + 1 =>
    { infer := fun opened depth => value graph settings (typer graph settings budget) opened depth
      contribute := fun opened depth =>
        contribution graph settings (typer graph settings budget) opened depth }

end Inference

namespace Graph

def typer (graph : Graph) (settings : Settings) : Typer :=
  Inference.typer graph settings (graph.nodes.size + 1)

def infer (graph : Graph) (settings : Settings) (value : Value) (depth : Int := 0) :
    Typed TypeExpr :=
  (graph.typer settings).infer [] depth value

def inferText (graph : Graph) (settings : Settings) (value : Value) (depth : Int := 0) :
    Typed String := do
  return (← graph.infer settings value depth).render settings

/-- The merged shape of several objects, laid out at a depth. -/
def mergeShapes (graph : Graph) (settings : Settings) (objects : List Value) (depth : Int := 0)
    (opened : List Address := []) : Typed TypeExpr :=
  Merge.shapes graph settings (graph.typer settings) opened depth objects

/-- The type of an array whose elements are taken to be of the given kind, laid out at a depth. -/
def unifyArray (graph : Graph) (settings : Settings) (kind : ArrayKind) (elements : List Value)
    (depth : Int := 0) (opened : List Address := []) : Typed TypeExpr :=
  ArrayUnion.ofKind graph settings (graph.typer settings) opened depth kind elements

end Graph

end SampleTypes
