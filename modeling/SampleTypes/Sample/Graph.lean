import SampleTypes.Sample.Leaf

/-!
# Value graphs

Sample values may share parts and may contain themselves, so containers live in a graph and a value is a
leaf or the address of a container.  Two values are the same object exactly when their addresses agree.  An
address without a container behind it is a value about which nothing is known.  Here a container is an object or an
array; what it may be beside that is added in `SampleTypes.Sample.Faceted`.
-/

namespace SampleTypes

abbrev Address := Nat

/-- A sample value: a leaf, or the container at an address. -/
inductive Value
  | leaf (leaf : Leaf)
  | container (address : Address)

/-- The kinds of mappings; they differ in their literals. -/
inductive MappingKind
  | plain
  /-- A mapping that keeps the order of its entries as part of its value. -/
  | ordered
  /-- A mapping seen through a view that cannot change it. -/
  | readOnly
  /-- Several mappings seen as one. -/
  | layered (layers : List Value)

/-- The kinds of ordered collections; they differ in their literals and in what they are equal to. -/
inductive SequenceKind
  | list
  | tuple
  /-- A tuple of a named kind, whose parts are labelled `f0`, `f1` and so on. -/
  | labelled (name : String)
  | queue
  | values
  /-- A collection with a literal of its own; `isFalse` says that it never holds as a condition. -/
  | custom (name literal : String) (isFalse : Bool := false)
  deriving DecidableEq

inductive SetKind
  | set
  | frozen
  | keys
  | items
  deriving DecidableEq

/-- An arithmetic progression of integers: from `start` to before `stop` in steps of `step`. -/
structure Progression where
  start : Int
  stop : Int
  step : Int
  deriving DecidableEq

namespace Progression

def length (progression : Progression) : Nat :=
  let ⟨start, stop, step⟩ := progression
  if 0 < step then ((stop - start + step - 1) / step).toNat
  else if step < 0 then ((start - stop - step - 1) / (-step)).toNat
  else 0

def members (progression : Progression) : List Int :=
  (List.range progression.length).map fun (position : Nat) =>
    progression.start + position * progression.step

/-- Whether two progressions have the same members. -/
def same (left right : Progression) : Bool :=
  left.length == right.length &&
    (left.length == 0 || (left.start == right.start && (left.length == 1 || left.step == right.step)))

example : same ⟨0, 4, 2⟩ ⟨0, 3, 2⟩ = true ∧ same ⟨0, 3, -1⟩ ⟨5, 5, 1⟩ = true := by decide
example : (Progression.mk 5 (-1) (-2)).members = [5, 3, 1] := by decide

end Progression

/-- A container: an object, which has entries, or an array, which has elements. -/
inductive Node
  | mapping (kind : MappingKind) (entries : List (Value × Value))
  /-- Named fields; one without a value has never been assigned. -/
  | record (name : String) (fields : List (String × Option Value))
  | sequence (kind : SequenceKind) (elements : List Value)
  /-- The array of the integers of a progression. -/
  | range (progression : Progression)
  /-- The array of the bytes of a byte string. -/
  | view (content : List UInt8)
  /-- Distinct elements, listed in the order in which the set happens to yield them. -/
  | set (kind : SetKind) (elements : List Value)

/-- The containers of sample values. -/
structure Graph where
  nodes : Array Node := #[]

namespace Node

def isObject : Node → Bool
  | .mapping _ _ | .record _ _ => true
  | .sequence _ _ | .range _ | .view _ | .set _ _ => false

/-- The elements of an array in the order in which it yields them; an object has none. -/
def members : Node → List Value
  | .mapping _ _ | .record _ _ => []
  | .sequence _ elements => elements
  | .range progression => progression.members.map fun member => .leaf (.integer member)
  | .view content => content.map fun byte => .leaf (.integer byte.toNat)
  | .set _ elements => elements

/-- Whether an array holds as a condition: it does when it has elements, unless its kind never does. -/
def isTrue : Node → Bool
  | .sequence (.custom _ _ true) _ => false
  | .range progression => progression.length != 0
  | node => !node.members.isEmpty

end Node

namespace Graph

def node? (graph : Graph) (address : Address) : Option Node :=
  graph.nodes[address]?

/-- The container that a value is, if it is one. -/
def nodeOf? (graph : Graph) : Value → Option Node
  | .leaf _ => none
  | .container address => graph.node? address

def isObject (graph : Graph) (value : Value) : Bool :=
  match graph.nodeOf? value with
  | some node => node.isObject
  | none => false

def isArray (graph : Graph) : Value → Bool
  | .leaf leaf => leaf.isArray
  | .container address =>
    match graph.node? address with
    | some node => !node.isObject
    | none => false

/-- The graph with one more container, and the value that it is. -/
def push (graph : Graph) (node : Node) : Graph × Value :=
  (⟨graph.nodes.push node⟩, .container graph.nodes.size)

def set (graph : Graph) (address : Address) (node : Node) : Graph :=
  ⟨graph.nodes.setIfInBounds address node⟩

end Graph

end SampleTypes
