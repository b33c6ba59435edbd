import SampleTypes.TextIndex
import SampleTypes.TypeExpr.Render

/-!
# Unions of observed types

Two observed types count as the same variant when their texts agree.  A union either keeps its variants in
the order of their first appearance, or sorts them by their texts.
-/

namespace SampleTypes.TypeExpr

/-- The types with distinct texts, in the order of their first appearance. -/
def distinctByText (settings : Settings) (types : List TypeExpr) : List TypeExpr :=
  (keepFirst (fun left right => left.1 == right.1)
    (types.map fun type => (type.render settings, type))).map (·.2)

/-- The union of the types with distinct texts on a single line, in ascending order of their texts. -/
def sortedUnion (settings : Settings) (types : List TypeExpr) : TypeExpr :=
  unionOf ((TextIndex.ofList (types.map fun type => (type.render settings, type))).map (·.2))

end SampleTypes.TypeExpr
