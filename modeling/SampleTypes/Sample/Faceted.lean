import SampleTypes.Sample.Contents

/-!
# Containers of several classes

The node of a container says what it holds, and mostly also what it is.  A few containers are more than one thing: a
member of an enumeration may be an array or an object as well, as may a number or a text of a kind of its own; a
record may have the elements of an array beside its fields; and an array may hold as a condition although it is
empty.  Such facets are told beside the nodes.
-/

namespace SampleTypes

/-- Whether a leaf keeps its type when it is a container as well: a number, a text or a member of an enumeration does,
as its class is asked first. -/
def Leaf.comesFirst : Leaf → Bool
  | .integer _ _ | .numeral _ _ | .text _ _ | .symbol _ _ _ _ _ _ => true
  | .null | .undefined | .boolean _ | .bytes _ | .buffer _ | .function _ _ _ | .recordType _ _ _ | .other _ _ _ => false

/-- What a container is beside what its node says. -/
structure Facets where
  /-- The leaf that the container is in the first place. -/
  guise : Option {leaf : Leaf // leaf.comesFirst = true} := none
  /-- The array that a record is as well. -/
  collection : Option {node : Node // node.isObject = false} := none
  /-- Whether an array holds as a condition even if it has no elements. -/
  alwaysTrue : Bool := false

def Facets.isText (facets : Facets) : Bool :=
  match facets.guise with
  | some ⟨.text _ _, _⟩ => true
  | _ => false

/-- The containers of sample values with their facets. -/
structure FacetedGraph extends Graph where
  facets : Address → Facets := fun _ => {}

/-- A container with other values in the places of those in it. -/
def Node.mapValues (change : Value → Value) : Node → Node
  | .mapping (.layered layers) entries =>
      .mapping (.layered (layers.map change)) (entries.map fun entry => (change entry.1, change entry.2))
  | .mapping kind entries => .mapping kind (entries.map fun entry => (change entry.1, change entry.2))
  | .record name fields => .record name (fields.map fun field => (field.1, field.2.map change))
  | .sequence kind elements => .sequence kind (elements.map change)
  | .range progression => .range progression
  | .view content => .view content
  | .set kind elements => .set kind (elements.map change)

namespace FacetedGraph

/-- What a value is in the first place: the leaf that a container is, or the value itself. -/
def front (graph : FacetedGraph) : Value → Value
  | .leaf leaf => .leaf leaf
  | .container address =>
    match (graph.facets address).guise with
    | some leaf => .leaf leaf.val
    | none => .container address

/-- The containers as they show themselves, every value in them as what it is in the first place. -/
def shown (graph : FacetedGraph) : Graph :=
  ⟨(graph.nodes.toList.map (Node.mapValues graph.front)).toArray⟩

def isObject (graph : FacetedGraph) (value : Value) : Bool :=
  graph.toGraph.isObject value

/-- The array that a container is, if it is one; a text is none. -/
def arrayAt? (graph : FacetedGraph) (address : Address) : Option Node :=
  if (graph.facets address).isText then none
  else
    match graph.node? address with
    | none | some (.mapping _ _) => none
    | some (.record _ _) => (graph.facets address).collection.map (·.val)
    | some node => some node

def isArray (graph : FacetedGraph) : Value → Bool
  | .leaf leaf => leaf.isArray
  | .container address => (graph.arrayAt? address).isSome

/-- The elements of an array; those of a set are put in order first. -/
def elements (graph : FacetedGraph) : Node → Except Fault (List Value)
  | .set _ members => graph.shown.sortedOn graph.front members
  | node => graph.toGraph.elements node

/-- The entries of an object. -/
def entriesOfNode (graph : FacetedGraph) : Node → Except Fault (List (String × List Value))
  | .mapping _ entries => do
      let keyed ← entries.mapM fun entry => do
        return (← graph.shown.keyText (graph.front entry.1), entry.2)
      return groupByKey keyed
  | node => graph.toGraph.entriesOfNode node

/-- The entries of a value. -/
def entries (graph : FacetedGraph) : Value → Except Fault (List (String × List Value))
  | .leaf leaf => graph.toGraph.entries (.leaf leaf)
  | .container address =>
    match graph.node? address with
    | some node => graph.entriesOfNode node
    | none => .error .notAnObject

end FacetedGraph

end SampleTypes
