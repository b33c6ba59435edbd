import SampleTypes.TypeName
import SampleTypes.Typing.Inference

/-!
# Declared types

The declaration of the type of a sample value: the type is named after a given text and laid out at depth
zero.
-/

namespace SampleTypes.Graph

/-- The declaration of the type of a value. -/
def declaration (graph : Graph) (settings : Settings) (typeName : String) (value : Value) :
    Typed String := do
  return TypeName.declaration (TypeName.ofText typeName) (← graph.inferText settings value)

end SampleTypes.Graph
