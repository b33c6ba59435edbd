import SampleTypes.Proofs.BareContainers
import SampleTypes.Proofs.Inhabitation

/-!
# Values of several classes

The world of a graph with facets, in which a value may be a leaf and an array at once, or an object and an array.
What a type holds as it shows itself, the type holds with all its facets: these only add to what a value is.
-/

namespace SampleTypes

/-- Every value of one world is all that its image in another world is, with the same contents. -/
structure World.Shows {Item Image : Type} (world : World Item) (narrow : World Image) (image : Item → Image) : Prop where
  isLeaf {item : Item} {leaf : Leaf} (isLeaf : narrow.IsLeaf (image item) leaf) : world.IsLeaf item leaf
  isObject {item : Item} (isObject : narrow.IsObject (image item)) : world.IsObject item
  hasEntry {item : Item} (isObject : narrow.IsObject (image item)) {key : Except Fault String} {part : Item}
    (hasEntry : world.HasEntry item key part) : narrow.HasEntry (image item) key (image part)
  entry {item : Item} (isObject : narrow.IsObject (image item)) {key : Except Fault String} {part : Image}
    (hasEntry : narrow.HasEntry (image item) key part) : ∃ part, world.HasEntry item key part
  isArray {item : Item} (isArray : narrow.IsArray (image item)) : world.IsArray item
  hasElement {item : Item} (isArray : narrow.IsArray (image item)) {part : Item} (hasElement : world.HasElement item part) :
    narrow.HasElement (image item) (image part)

namespace TypeExpr

section Shows

variable {Item Image : Type} {world : World Item} {narrow : World Image} {image : Item → Image}

mutual

/-- A type holds a value if it holds its image. -/
theorem HeldIn.of_image (shows : world.Shows narrow image) {type : TypeExpr} {item : Item}
    (held : type.HeldIn narrow (image item)) :
    type.HeldIn world item := by
  cases type with
  | primitive name =>
      rcases held with isUnknown | ⟨leaf, isLeaf, hasName⟩
      · exact .inl isUnknown
      · exact .inr ⟨leaf, shows.isLeaf isLeaf, hasName⟩
  | callable =>
      obtain ⟨leaf, isLeaf, isCallable⟩ := held
      exact ⟨leaf, shows.isLeaf isLeaf, isCallable⟩
  | circular => trivial
  | record type =>
      obtain ⟨isObject, each⟩ := held
      exact ⟨shows.isObject isObject, fun key part hasEntry =>
        HeldIn.of_image shows (each key (image part) (shows.hasEntry isObject hasEntry))⟩
  | array element =>
      obtain ⟨isArray, each⟩ := held
      exact ⟨shows.isArray isArray, fun part hasElement =>
        HeldIn.of_image shows (each (image part) (shows.hasElement isArray hasElement))⟩
  | object properties depth =>
      obtain ⟨isObject, known, properties⟩ := held
      exact ⟨shows.isObject isObject, fun key part hasEntry => known key _ (shows.hasEntry isObject hasEntry),
        PropertiesHeldIn.of_image shows isObject properties⟩
  | union members depth multiline => exact SomeHeldIn.of_image shows held

theorem SomeHeldIn.of_image (shows : world.Shows narrow image) {members : List TypeExpr} {item : Item}
    (held : SomeHeldIn narrow members (image item)) :
    SomeHeldIn world members item := by
  cases members with
  | nil => exact held
  | cons member members => exact held.imp (HeldIn.of_image shows) (SomeHeldIn.of_image shows)

theorem PropertiesHeldIn.of_image (shows : world.Shows narrow image) {properties : List (Property TypeExpr)} {item : Item}
    (isObject : narrow.IsObject (image item)) (held : PropertiesHeldIn narrow properties (image item)) :
    PropertiesHeldIn world properties item := by
  cases properties with
  | nil => trivial
  | cons property properties =>
      obtain ⟨key, type, optional⟩ := property
      obtain ⟨required, values, others⟩ := held
      refine ⟨?_, ?_, PropertiesHeldIn.of_image shows isObject others⟩
      · intro isRequired
        obtain ⟨part, hasEntry⟩ := required isRequired
        exact shows.entry isObject hasEntry
      · intro part hasEntry
        exact HeldIn.of_image shows (values (image part) (shows.hasEntry isObject hasEntry))

end

end Shows

end TypeExpr

namespace FacetedGraph

/-- A container has an entry.  The text of a key is that of what the key shows. -/
def HasEntry (graph : FacetedGraph) (node : Node) (key : Except Fault String) (part : Value) : Prop :=
  match node with
  | .mapping _ entries => ∃ entry ∈ entries, graph.shown.keyText (graph.front entry.1) = key ∧ entry.2 = part
  | node => graph.toGraph.HasEntry node key part

/-- The array that a value is, if it is one. -/
def arrayOf? (graph : FacetedGraph) : Value → Option Node
  | .leaf _ => none
  | .container address => graph.arrayAt? address

/-- The values of a graph with all their facets. -/
def world (graph : FacetedGraph) : World Value where
  IsLeaf value leaf := graph.front value = .leaf leaf
  IsObject value := graph.isObject value = true
  HasEntry value key part := ∃ node, graph.nodeOf? value = some node ∧ graph.HasEntry node key part
  IsArray value := (graph.arrayOf? value).isSome = true
  HasElement value part := ∃ node, graph.arrayOf? value = some node ∧ part ∈ node.members

variable {graph : FacetedGraph}

/-- A value that shows as a container is that container. -/
theorem exists_node_of_shown {value : Value} {node : Node} (isShown : graph.shown.nodeOf? (graph.front value) = some node) :
    ∃ address inner, value = .container address ∧ (graph.facets address).guise = none ∧
      graph.node? address = some inner ∧ node = inner.mapValues graph.front := by
  cases value with
  | leaf leaf => cases isShown
  | container address =>
      cases guise : (graph.facets address).guise with
      | some leaf =>
          simp only [front, guise] at isShown
          cases isShown
      | none =>
          simp only [front, guise, Graph.nodeOf?, node?_shown, Option.map_eq_some_iff] at isShown
          obtain ⟨inner, isNode, rfl⟩ := isShown
          exact ⟨address, inner, rfl, guise, isNode, rfl⟩

theorem lookup_map_front (fields : List (String × Option Value)) (name : String) :
    (fields.map fun field => (field.1, field.2.map graph.front)).reverse.lookup name =
      (fields.reverse.lookup name).map fun assigned => assigned.map graph.front := by
  rw [← List.map_reverse]
  exact lookup_map (fun assigned => assigned.map graph.front) fields.reverse name

/-- What a container shows has an entry for each of its entries, and no others. -/
theorem hasEntry_shown_iff {node : Node} {key : Except Fault String} {part : Value} :
    graph.shown.HasEntry (node.mapValues graph.front) key part ↔
      ∃ inner, graph.HasEntry node key inner ∧ part = graph.front inner := by
  cases node with
  | mapping kind entries =>
      have mapped : graph.shown.HasEntry ((Node.mapping kind entries).mapValues graph.front) key part ↔
          ∃ pair ∈ entries.map fun entry => (graph.front entry.1, graph.front entry.2),
            graph.shown.keyText pair.1 = key ∧ pair.2 = part := by
        cases kind <;> rfl
      rw [mapped]
      constructor
      · rintro ⟨pair, member, written, rfl⟩
        obtain ⟨entry, entryMember, rfl⟩ := List.mem_map.mp member
        exact ⟨entry.2, ⟨entry, entryMember, written, rfl⟩, rfl⟩
      · rintro ⟨inner, ⟨entry, member, written, rfl⟩, rfl⟩
        exact ⟨_, List.mem_map_of_mem member, written, rfl⟩
  | record recordName fields =>
      have absence (assigned : Option Value) :
          (assigned.map graph.front).getD (.leaf .undefined) = graph.front (assigned.getD (.leaf .undefined)) := by
        cases assigned <;> rfl
      simp only [Node.mapValues, Graph.HasEntry, HasEntry, lookup_map_front, Option.map_eq_some_iff]
      constructor
      · rintro ⟨name, _, rfl, ⟨assigned, found, rfl⟩, rfl⟩
        exact ⟨_, ⟨name, assigned, rfl, found, rfl⟩, absence assigned⟩
      · rintro ⟨_, ⟨name, assigned, rfl, found, rfl⟩, rfl⟩
        exact ⟨name, _, rfl, ⟨assigned, found, rfl⟩, (absence assigned).symm⟩
  | sequence | range | view | set => simp [Node.mapValues, Graph.HasEntry, HasEntry]

/-- With its facets a value is all that it is as it shows itself. -/
theorem shows_front (graph : FacetedGraph) : graph.world.Shows graph.shown.world graph.front := by
  constructor
  case isLeaf => exact id
  case isObject =>
    rintro value ⟨node, isShown, isObject⟩
    obtain ⟨address, inner, rfl, -, isNode, rfl⟩ := exists_node_of_shown isShown
    exact Graph.isObject_eq_true_iff.mpr ⟨address, inner, rfl, isNode, by simpa using isObject⟩
  case hasEntry =>
    rintro value ⟨node, isShown, -⟩ key part ⟨inner, isNode, hasEntry⟩
    obtain ⟨address, same, rfl, -, isInner, rfl⟩ := exists_node_of_shown isShown
    cases isNode.symm.trans isInner
    exact ⟨_, isShown, hasEntry_shown_iff.mpr ⟨part, hasEntry, rfl⟩⟩
  case entry =>
    rintro value - key part ⟨node, isShown, hasEntry⟩
    obtain ⟨address, inner, rfl, -, isNode, rfl⟩ := exists_node_of_shown isShown
    obtain ⟨innerPart, innerEntry, -⟩ := hasEntry_shown_iff.mp hasEntry
    exact ⟨innerPart, inner, isNode, innerEntry⟩
  case isArray =>
    rintro value ⟨node, isShown, isArray⟩
    obtain ⟨address, inner, rfl, guise, isNode, rfl⟩ := exists_node_of_shown isShown
    have isInner : graph.arrayOf? (.container address) = some inner :=
      arrayAt?_of_guise guise isNode (by simpa using isArray)
    exact Option.isSome_iff_exists.mpr ⟨inner, isInner⟩
  case hasElement =>
    rintro value ⟨node, isShown, isArray⟩ part ⟨array, isArrayNode, member⟩
    obtain ⟨address, inner, rfl, guise, isNode, rfl⟩ := exists_node_of_shown isShown
    have isInner : graph.arrayOf? (.container address) = some inner :=
      arrayAt?_of_guise guise isNode (by simpa using isArray)
    cases isArrayNode.symm.trans isInner
    refine ⟨_, isShown, ?_⟩
    rw [Node.members_mapValues front_leaf]
    exact List.mem_map_of_mem member

/-- What a type holds as it shows itself, the type holds with its facets. -/
theorem heldIn_of_inhabitedBy_shown {type : TypeExpr} {value : Value}
    (inhabited : type.InhabitedBy graph.shown (graph.front value)) : type.HeldIn graph.world value :=
  .of_image graph.shows_front ((TypeExpr.inhabitedBy_iff_heldIn type _).mp inhabited)

end FacetedGraph

end SampleTypes
