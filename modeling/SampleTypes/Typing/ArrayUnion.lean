import SampleTypes.Typing.Merge

/-!
# Array types

The type of an array from its elements.  What becomes of the elements depends on their kind: arrays are
unwrapped into the variants of an array of arrays, objects are merged or kept as distinct shapes, and mixed
elements become a union in the order of their first appearance.
-/

namespace SampleTypes

/-- What the elements of an array are. -/
inductive ArrayKind
  | arrays
  | objects
  | mixed
  deriving DecidableEq

namespace ArrayKind

def name : ArrayKind → String
  | .arrays => "arrays"
  | .objects => "objects"
  | .mixed => "mixed"

def ofName? (text : String) : Option ArrayKind :=
  [ArrayKind.arrays, .objects, .mixed].find? (·.name == text)

/-- What is said of a text that names no kind. -/
def refusal (text : String) : String :=
  Text.Quoted.text text ++ " is not a valid ArrayKind"

/-- The kind of the elements of an array inside the open containers.  An object that is open itself does not
count as one. -/
def ofElements (graph : Graph) (opened : List Address) (elements : List Value) : ArrayKind :=
  if elements.all graph.isArray then .arrays
  else if elements.all fun element => graph.isObject element && !element.isOpen opened then .objects
  else .mixed

end ArrayKind

namespace ArrayUnion

/-- The union of the distinct types of the elements, one member on each line if one of them spans lines.  A
single type is laid out again at the depth of the array itself. -/
def distinctShapes (settings : Settings) (typer : Typer) (opened : List Address) (depth : Int)
    (elements : List Value) : Typed TypeExpr := do
  let types ← elements.mapM (typer.infer opened (depth + 1))
  match elements, TypeExpr.distinctByText settings types with
  | first :: _, [_] => typer.infer opened depth first
  | _, shapes => return .union shapes depth (shapes.any (·.spansLines))

/-- The members of a union, or the type itself if it is no union. -/
def variants : TypeExpr → List TypeExpr
  | .union members _ _ => members
  | type => [type]

def arrayOfArrays (settings : Settings) (types : List TypeExpr) : TypeExpr :=
  .array (.array (TypeExpr.sortedUnion settings (types.flatMap TypeExpr.unwrapArray)))

def ofArrays (settings : Settings) (typer : Typer) (opened : List Address) (depth : Int)
    (elements : List Value) : Typed TypeExpr := do
  match settings.mode with
  | .union =>
      let shapes ← distinctShapes settings typer opened depth elements
      if shapes.spansLines then return .array shapes
      return arrayOfArrays settings (variants shapes)
  | .merge => return arrayOfArrays settings (← elements.mapM (typer.infer opened (depth + 1)))

def ofObjects (graph : Graph) (settings : Settings) (typer : Typer) (opened : List Address)
    (depth : Int) (elements : List Value) : Typed TypeExpr := do
  match settings.mode with
  | .merge => return .array (← Merge.shapes graph settings typer opened depth elements)
  | .union => return .array (← distinctShapes settings typer opened depth elements)

def ofMixed (graph : Graph) (settings : Settings) (typer : Typer) (opened : List Address)
    (depth : Int) (elements : List Value) : Typed TypeExpr := do
  let types ← elements.mapM fun element =>
    if settings.mode = .merge ∧ graph.isObject element then
      typer.contribute opened (depth + 1) element
    else typer.infer opened (depth + 1) element
  return .array (.unionOf (TypeExpr.distinctByText settings types))

def ofKind (graph : Graph) (settings : Settings) (typer : Typer) (opened : List Address)
    (depth : Int) (kind : ArrayKind) (elements : List Value) : Typed TypeExpr :=
  match kind with
  | .arrays => ofArrays settings typer opened depth elements
  | .objects => ofObjects graph settings typer opened depth elements
  | .mixed => ofMixed graph settings typer opened depth elements

end ArrayUnion

end SampleTypes
