import SampleTypes.Sample.Faceted
import SampleTypes.Typing.Inference

/-!
# Inference for containers of several classes

The steps of inference ask for the classes of a value in different orders.  A value by itself is a leaf before it is
an object, and an object before it is an array; the elements of an array are asked for arrays first, and for objects
before leaves; and a value of a merged object is asked in the same way.  For a container of one class all orders come
to the same, but a container of several classes is typed by the one that is asked for first.
-/

namespace SampleTypes

/-- A typer that also merges an object by itself, whatever it is in the first place. -/
structure MergingTyper extends Typer where
  /-- The type of an object that is merged by itself. -/
  merge : (opened : List Address) → (depth : Int) → Value → Typed TypeExpr

namespace FacetedGraph

variable (graph : FacetedGraph) (settings : Settings)

section Step

variable (typer : MergingTyper) (opened : List Address) (depth : Int)

def describe (objects : List Value) : Typed (List Merge.Described) :=
  objects.mapM fun object => do return ⟨object, ← graph.entries object⟩

/-- The object type of several objects. -/
def shapes (objects : List Value) : Typed TypeExpr := do
  if objects.isEmpty then return .anyObject
  let described ← graph.describe objects
  let keys := Merge.keys described
  if keys.isEmpty then return .emptyObject
  return .object (← keys.mapM (Merge.property settings typer.toTyper opened depth described)) depth

/-- The kind of the elements of an array.  Arrays are asked for first. -/
def kindOfElements (elements : List Value) : ArrayKind :=
  if elements.all graph.isArray then .arrays
  else if elements.all fun element => graph.isObject element && !element.isOpen opened then .objects
  else .mixed

def ofKind (kind : ArrayKind) (elements : List Value) : Typed TypeExpr :=
  match kind with
  | .arrays => ArrayUnion.ofArrays settings typer.toTyper opened depth elements
  | .objects =>
    match settings.mode with
    | .merge => return .array (← graph.shapes settings typer opened depth elements)
    | .union => return .array (← ArrayUnion.distinctShapes settings typer.toTyper opened depth elements)
  | .mixed => do
      let types ← elements.mapM fun element =>
        if settings.mode = .merge ∧ graph.isObject element then typer.merge opened (depth + 1) element
        else typer.infer opened (depth + 1) element
      return .array (.unionOf (TypeExpr.distinctByText settings types))

/-- The type of an object, the values in which are left to the typer. -/
def object (node : Node) : Typed TypeExpr := do
  let properties ← (← graph.entriesOfNode node).mapM fun entry => do
    let types ← entry.2.mapM (typer.infer opened (depth + 1))
    return ⟨entry.1, .unionOf (TypeExpr.distinctByText settings types), false⟩
  return if properties.isEmpty then .emptyObject else .object properties depth

/-- The type of an array, the elements of which are left to the typer. -/
def array (node : Node) : Typed TypeExpr := do
  let elements ← graph.elements node
  if elements.isEmpty then return .emptyArray
  graph.ofKind settings typer opened depth (graph.kindOfElements opened elements) elements

/-- The type of a value, the parts of which are left to the typer.  Leaves are asked for first, and objects before
arrays. -/
def value (value : Value) : Typed TypeExpr :=
  match graph.front value with
  | .leaf leaf => .ok leaf.type
  | .container address =>
    match graph.node? address with
    | none => .ok .unknown
    | some node =>
      if address ∈ opened then .ok .circular
      else if node.isObject then graph.object settings typer (address :: opened) depth node
      else graph.array settings typer (address :: opened) depth node

/-- The type of an object that is merged by itself. -/
def mergedObject (value : Value) : Typed TypeExpr :=
  if value.isOpen opened then .ok .circular else graph.shapes settings typer opened depth [value]

/-- The array whose elements are merged when a container is a value of a merged object: one that holds as a
condition and has no elements but objects that are not open. -/
def mergedArray? (address : Address) : Option Node := do
  let array ← graph.arrayAt? address
  let isTrue := array.isTrue || (graph.facets address).alwaysTrue
  let objectsOnly := array.members.all fun element => graph.isObject element && !element.isOpen opened
  if isTrue && objectsOnly && !opened.contains address then some array else none

/-- The type that a value contributes to a merged object, the parts of the value being left to the typer.  Arrays are
asked for first, and objects before leaves. -/
def contribution : Value → Typed TypeExpr
  | .leaf leaf => .ok leaf.type
  | .container address =>
    match graph.mergedArray? opened address with
    | some array => return .array (← graph.shapes settings typer (address :: opened) depth array.members)
    | none =>
      if graph.isObject (.container address) then graph.mergedObject settings typer opened depth (.container address)
      else graph.value settings typer opened depth (.container address)

end Step

/-- The typer that may open as many containers at once as the budget says. -/
def typerWithin : Nat → MergingTyper
  | 0 => { Typer.exhausted with merge := fun _ _ _ => .error .budgetSpent }
  | budget + 1 =>
    { infer := graph.value settings (typerWithin budget)
      contribute := graph.contribution settings (typerWithin budget)
      merge := graph.mergedObject settings (typerWithin budget) }

def typer : MergingTyper :=
  graph.typerWithin settings (graph.nodes.size + 1)

def infer (value : Value) (depth : Int := 0) : Typed TypeExpr :=
  (graph.typer settings).infer [] depth value

def inferText (value : Value) (depth : Int := 0) : Typed String := do
  return (← graph.infer settings value depth).render settings

/-- The merged shape of several objects, laid out at a depth. -/
def mergeShapes (objects : List Value) (depth : Int := 0) (opened : List Address := []) : Typed TypeExpr :=
  graph.shapes settings (graph.typer settings) opened depth objects

/-- The type of an array whose elements are taken to be of the given kind, laid out at a depth. -/
def unifyArray (kind : ArrayKind) (elements : List Value) (depth : Int := 0) (opened : List Address := []) :
    Typed TypeExpr :=
  graph.ofKind settings (graph.typer settings) opened depth kind elements

end FacetedGraph

end SampleTypes
