import SampleTypes.TypeExpr.Union
import SampleTypes.Typing.Typer

/-!
# Merged shapes

Several objects become one object type.  It has every key of every object, in ascending order; a key that
some object lacks is optional, and the type of a key is the sorted union of the types that the values under
it contribute.
-/

namespace SampleTypes.Merge

structure Described where
  object : Value
  entries : List (String × List Value)

namespace Described

def valuesUnder (described : Described) (key : String) : List Value :=
  (described.entries.lookup key).getD []

def hasKey (described : Described) (key : String) : Bool :=
  (described.entries.lookup key).isSome

end Described

def describe (graph : Graph) (objects : List Value) : Typed (List Described) :=
  objects.mapM fun object => do return ⟨object, ← graph.entries object⟩

def keys (objects : List Described) : List String :=
  TextIndex.texts (objects.flatMap fun described => described.entries.map (·.1))

/-- The types that the values of all objects under a key contribute. -/
def contributions (typer : Typer) (opened : List Address) (depth : Int) (objects : List Described)
    (key : String) : Typed (List TypeExpr) := do
  let types ← objects.mapM fun described =>
    (described.valuesUnder key).mapM (typer.contribute (described.object.open opened) depth)
  return types.flatten

/-- The merged property of a key. -/
def property (settings : Settings) (typer : Typer) (opened : List Address) (depth : Int)
    (objects : List Described) (key : String) : Typed (Property TypeExpr) := do
  let types ← contributions typer opened (depth + 1) objects key
  return ⟨key, TypeExpr.sortedUnion settings types, !objects.all (·.hasKey key)⟩

/-- The object type of several objects. -/
def shapes (graph : Graph) (settings : Settings) (typer : Typer) (opened : List Address)
    (depth : Int) (objects : List Value) : Typed TypeExpr := do
  if objects.isEmpty then return .anyObject
  let described ← describe graph objects
  let keys := keys described
  if keys.isEmpty then return .emptyObject
  return .object (← keys.mapM (property settings typer opened depth described)) depth

end SampleTypes.Merge
