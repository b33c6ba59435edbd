import SampleTypes.Proofs.InferredTypes
import SampleTypes.Proofs.Unambiguous

/-!
# Values of types

Which values a type holds: the values of a graph, and those of any world of leaves, objects and arrays, in which a
value may also be several of these at once.  This is said of values as they are, without typing them: a type holds a
container if it holds the values in it.  Depths mean nothing for it, so two types with the same text hold the same
values.
-/

namespace SampleTypes

namespace Leaf

/-- The leaves that a named type holds.  An integer is a number if it is below 2^53 and above -2^53. -/
inductive HasName : String → Leaf → Prop
  | null : HasName "null" .null
  | undefined : HasName "undefined" .undefined
  | boolean (value : Bool) : HasName "boolean" (.boolean value)
  | safeInteger {value : Int} (kind : String)
      (safe : -9007199254740991 ≤ value ∧ value ≤ 9007199254740991) :
      HasName "number" (.integer value kind)
  | largeInteger {value : Int} (kind : String)
      (large : value < -9007199254740991 ∨ 9007199254740991 < value) :
      HasName "bigint" (.integer value kind)
  | numeral (value : Numeral) (mark : Nat) : HasName "number" (.numeral value mark)
  | text (value kind : String) : HasName "string" (.text value kind)
  | symbol (kind text literal : String) (standsFor : Option Leaf) (isFlag : Bool) (mark : Nat) :
      HasName "symbol" (.symbol kind text literal standsFor isFlag mark)

/-- Whether a leaf can be called. -/
def IsCallable : Leaf → Prop
  | .function _ _ _ | .recordType _ _ _ => True
  | _ => False

end Leaf

namespace TypeExpr

section Definition

variable (graph : Graph)

mutual

/-- Whether a type holds a value. -/
def InhabitedBy : TypeExpr → Value → Prop
  | .primitive name, value => name = "unknown" ∨ ∃ leaf, value = .leaf leaf ∧ leaf.HasName name
  | .callable, value => ∃ leaf, value = .leaf leaf ∧ leaf.IsCallable
  | .circular, _ => True
  | .record type, value =>
      ∃ node, graph.nodeOf? value = some node ∧ node.isObject = true ∧
        ∀ key part, graph.HasEntry node key part → type.InhabitedBy part
  | .array element, value =>
      ∃ node, graph.nodeOf? value = some node ∧ node.isObject = false ∧
        ∀ part ∈ node.members, element.InhabitedBy part
  | .object properties _, value =>
      ∃ node, graph.nodeOf? value = some node ∧ node.isObject = true ∧
        (∀ key part, graph.HasEntry node key part → ∃ property ∈ properties, key = .ok property.key) ∧
        PropertiesInhabitedBy properties node
  | .union members _ _, value => SomeInhabitedBy members value

/-- Whether one of several types holds a value. -/
def SomeInhabitedBy : List TypeExpr → Value → Prop
  | [], _ => False
  | member :: members, value => member.InhabitedBy value ∨ SomeInhabitedBy members value

/-- Whether an object has every property that is not optional, and all values under the keys of properties are
held by their types. -/
def PropertiesInhabitedBy : List (Property TypeExpr) → Node → Prop
  | [], _ => True
  | ⟨key, type, optional⟩ :: properties, node =>
      (optional = false → ∃ part, graph.HasEntry node (.ok key) part) ∧
        (∀ part, graph.HasEntry node (.ok key) part → type.InhabitedBy part) ∧
        PropertiesInhabitedBy properties node

end

end Definition

end TypeExpr

/-- What types see of values of any sort: the leaves that they are, and the contents that they have as objects and as
arrays.  A value may be more than one of these at once. -/
structure World (Item : Type) where
  IsLeaf : Item → Leaf → Prop
  IsObject : Item → Prop
  HasEntry : Item → Except Fault String → Item → Prop
  IsArray : Item → Prop
  HasElement : Item → Item → Prop

/-- The values of a graph, each of which is a leaf, an object or an array. -/
def Graph.world (graph : Graph) : World Value where
  IsLeaf value leaf := value = .leaf leaf
  IsObject value := ∃ node, graph.nodeOf? value = some node ∧ node.isObject = true
  HasEntry value key part := ∃ node, graph.nodeOf? value = some node ∧ graph.HasEntry node key part
  IsArray value := ∃ node, graph.nodeOf? value = some node ∧ node.isObject = false
  HasElement value part := ∃ node, graph.nodeOf? value = some node ∧ part ∈ node.members

namespace TypeExpr

section Worlds

variable {Item : Type} (world : World Item)

mutual

/-- Whether a type holds a value of a world. -/
def HeldIn : TypeExpr → Item → Prop
  | .primitive name, item => name = "unknown" ∨ ∃ leaf, world.IsLeaf item leaf ∧ leaf.HasName name
  | .callable, item => ∃ leaf, world.IsLeaf item leaf ∧ leaf.IsCallable
  | .circular, _ => True
  | .record type, item => world.IsObject item ∧ ∀ key part, world.HasEntry item key part → type.HeldIn part
  | .array element, item => world.IsArray item ∧ ∀ part, world.HasElement item part → element.HeldIn part
  | .object properties _, item =>
      world.IsObject item ∧
        (∀ key part, world.HasEntry item key part → ∃ property ∈ properties, key = .ok property.key) ∧
        PropertiesHeldIn properties item
  | .union members _ _, item => SomeHeldIn members item

/-- Whether one of several types holds a value of a world. -/
def SomeHeldIn : List TypeExpr → Item → Prop
  | [], _ => False
  | member :: members, item => member.HeldIn item ∨ SomeHeldIn members item

/-- Whether a value has an entry for every property that is not optional, and all values under the keys of properties
are held by their types. -/
def PropertiesHeldIn : List (Property TypeExpr) → Item → Prop
  | [], _ => True
  | ⟨key, type, optional⟩ :: properties, item =>
      (optional = false → ∃ part, world.HasEntry item (.ok key) part) ∧
        (∀ part, world.HasEntry item (.ok key) part → type.HeldIn part) ∧
        PropertiesHeldIn properties item

end

end Worlds

section Held

variable {Item : Type} {world : World Item} {item : Item}

theorem someHeldIn_iff {members : List TypeExpr} :
    SomeHeldIn world members item ↔ ∃ member ∈ members, member.HeldIn world item := by
  induction members with
  | nil => simp [SomeHeldIn]
  | cons member members induction => simp [SomeHeldIn, induction]

/-- A type holds what its variants hold together. -/
theorem heldIn_iff_exists_variant {type : TypeExpr} :
    type.HeldIn world item ↔ ∃ variant ∈ ArrayUnion.variants type, variant.HeldIn world item := by
  cases type with
  | union members depth multiline => exact someHeldIn_iff
  | _ => simp [ArrayUnion.variants]

theorem propertiesHeldIn_iff {properties : List (Property TypeExpr)} :
    PropertiesHeldIn world properties item ↔ ∀ property ∈ properties,
      (property.optional = false → ∃ part, world.HasEntry item (.ok property.key) part) ∧
        ∀ part, world.HasEntry item (.ok property.key) part → property.value.HeldIn world part := by
  induction properties with
  | nil => simp [PropertiesHeldIn]
  | cons property properties induction => simp [PropertiesHeldIn, induction, and_assoc]

theorem not_heldIn_never : ¬never.HeldIn world item := by
  rintro (isUnknown | ⟨leaf, -, hasName⟩)
  · simp at isUnknown
  · generalize isNever : "never" = name at hasName
    cases hasName <;> simp at isNever

/-- The type of an object without keys holds exactly the objects without entries. -/
theorem heldIn_emptyObject_iff :
    emptyObject.HeldIn world item ↔ world.IsObject item ∧ ∀ key part, ¬world.HasEntry item key part := by
  simp only [emptyObject, HeldIn, not_heldIn_never]

section MapDepths

variable {onLines onOneLine : Int → Int}

mutual

/-- Depths do not show in values. -/
theorem heldIn_mapDepths_iff (type : TypeExpr) (item : Item) :
    (type.mapDepths onLines onOneLine).HeldIn world item ↔ type.HeldIn world item := by
  cases type with
  | primitive name => rfl
  | callable => rfl
  | circular => rfl
  | record inner => simp only [mapDepths, HeldIn, heldIn_mapDepths_iff inner]
  | array element => simp only [mapDepths, HeldIn, heldIn_mapDepths_iff element]
  | object properties depth =>
      have keys (key : Except Fault String) :
          (∃ property ∈ mapDepthsProperties onLines onOneLine properties, key = .ok property.key) ↔
            ∃ property ∈ properties, key = .ok property.key := by
        simp [mapDepthsProperties_eq_map]
      simp only [mapDepths, HeldIn, keys, propertiesHeldIn_mapDepths_iff properties]
  | union members depth multiline => exact someHeldIn_mapDepths_iff members item

theorem someHeldIn_mapDepths_iff (members : List TypeExpr) (item : Item) :
    SomeHeldIn world (mapDepthsMembers onLines onOneLine members) item ↔ SomeHeldIn world members item := by
  cases members with
  | nil => rfl
  | cons member members =>
      rw [mapDepthsMembers, SomeHeldIn, SomeHeldIn, heldIn_mapDepths_iff member, someHeldIn_mapDepths_iff members]

theorem propertiesHeldIn_mapDepths_iff (properties : List (Property TypeExpr)) (item : Item) :
    PropertiesHeldIn world (mapDepthsProperties onLines onOneLine properties) item ↔
      PropertiesHeldIn world properties item := by
  cases properties with
  | nil => rfl
  | cons property properties =>
      obtain ⟨key, inner, optional⟩ := property
      simp only [mapDepthsProperties, PropertiesHeldIn, heldIn_mapDepths_iff inner,
        propertiesHeldIn_mapDepths_iff properties]

end

end MapDepths

/-- Regular types with the same text hold the same values. -/
theorem heldIn_iff_of_render_eq {settings : Settings} {left right : TypeExpr} (leftRegular : left.Regular)
    (rightRegular : right.Regular) (same : left.render settings = right.render settings) :
    left.HeldIn world item ↔ right.HeldIn world item := by
  have alike := normal_eq_of_render_eq settings leftRegular rightRegular same
  calc
    left.HeldIn world item ↔ (left.normal settings).HeldIn world item := (heldIn_mapDepths_iff left item).symm
    _ ↔ (right.normal settings).HeldIn world item := by rw [alike]
    _ ↔ right.HeldIn world item := heldIn_mapDepths_iff right item

section Unions

variable {settings : Settings} {types : List TypeExpr}

theorem heldIn_unionOf_iff {members : List TypeExpr} {depth : Int} {multiline : Bool} :
    (unionOf members depth multiline).HeldIn world item ↔ ∃ member ∈ members, member.HeldIn world item := by
  rcases unionOf_cases members depth multiline with ⟨member, rfl, same⟩ | ⟨-, same⟩
  · rw [same]
    simp
  · rw [same, HeldIn, someHeldIn_iff]

/-- The variants of some types hold together what the types hold together. -/
theorem Represents.exists_heldIn_iff {variants : List TypeExpr} (represents : Represents settings variants types)
    (single : ∀ type ∈ types, type.Single) :
    (∃ variant ∈ variants, variant.HeldIn world item) ↔ ∃ type ∈ types, type.HeldIn world item := by
  constructor
  · rintro ⟨variant, member, held⟩
    exact ⟨variant, represents.mem_of_mem variant member, held⟩
  · rintro ⟨type, member, held⟩
    obtain ⟨variant, variantMember, same⟩ := represents.exists_mem type member
    have variantSingle := single variant (represents.mem_of_mem variant variantMember)
    exact ⟨variant, variantMember,
      (heldIn_iff_of_render_eq variantSingle.2 (single type member).2 same).mpr held⟩

theorem heldIn_sortedUnion_iff (single : ∀ type ∈ types, type.Single) :
    (sortedUnion settings types).HeldIn world item ↔ ∃ type ∈ types, type.HeldIn world item := by
  rw [sortedUnion_eq, heldIn_unionOf_iff, (represents_sortedByText settings types).exists_heldIn_iff single]

theorem heldIn_unionOf_distinctByText_iff (single : ∀ type ∈ types, type.Single) :
    (unionOf (distinctByText settings types)).HeldIn world item ↔ ∃ type ∈ types, type.HeldIn world item := by
  rw [heldIn_unionOf_iff, (represents_distinctByText settings types).exists_heldIn_iff single]

end Unions

end Held

section Inhabited

variable {graph : Graph} {value : Value}

theorem someInhabitedBy_iff {members : List TypeExpr} :
    SomeInhabitedBy graph members value ↔ ∃ member ∈ members, member.InhabitedBy graph value := by
  induction members with
  | nil => simp [SomeInhabitedBy]
  | cons member members induction => simp [SomeInhabitedBy, induction]

theorem propertiesInhabitedBy_iff {properties : List (Property TypeExpr)} {node : Node} :
    PropertiesInhabitedBy graph properties node ↔ ∀ property ∈ properties,
      (property.optional = false → ∃ part, graph.HasEntry node (.ok property.key) part) ∧
        ∀ part, graph.HasEntry node (.ok property.key) part → property.value.InhabitedBy graph part := by
  induction properties with
  | nil => simp [PropertiesInhabitedBy]
  | cons property properties induction => simp [PropertiesInhabitedBy, induction, and_assoc]

theorem hasEntry_world_iff {node : Node} (isNode : graph.nodeOf? value = some node) {key : Except Fault String}
    {part : Value} : graph.world.HasEntry value key part ↔ graph.HasEntry node key part := by
  constructor
  · rintro ⟨other, isOther, hasEntry⟩
    cases isNode.symm.trans isOther
    exact hasEntry
  · exact fun hasEntry => ⟨node, isNode, hasEntry⟩

theorem hasElement_world_iff {node : Node} (isNode : graph.nodeOf? value = some node) {part : Value} :
    graph.world.HasElement value part ↔ part ∈ node.members := by
  constructor
  · rintro ⟨other, isOther, member⟩
    cases isNode.symm.trans isOther
    exact member
  · exact fun member => ⟨node, isNode, member⟩

/-- What is said of the container that a value is can be said of the value. -/
theorem exists_node_iff {isObject : Bool} {ofNode : Node → Prop} {ofValue : Prop}
    (same : ∀ node, graph.nodeOf? value = some node → (ofNode node ↔ ofValue)) :
    (∃ node, graph.nodeOf? value = some node ∧ node.isObject = isObject ∧ ofNode node) ↔
      (∃ node, graph.nodeOf? value = some node ∧ node.isObject = isObject) ∧ ofValue := by
  constructor
  · rintro ⟨node, isNode, sort, said⟩
    exact ⟨⟨node, isNode, sort⟩, (same node isNode).mp said⟩
  · rintro ⟨⟨node, isNode, sort⟩, said⟩
    exact ⟨node, isNode, sort, (same node isNode).mpr said⟩

mutual

/-- The values of a graph that a type holds are those that it holds in the world of the graph. -/
theorem inhabitedBy_iff_heldIn (type : TypeExpr) (value : Value) :
    type.InhabitedBy graph value ↔ type.HeldIn graph.world value := by
  cases type with
  | primitive name => rfl
  | callable => rfl
  | circular => rfl
  | record inner =>
      apply exists_node_iff
      intro node isNode
      simp only [inhabitedBy_iff_heldIn inner, hasEntry_world_iff isNode]
  | array element =>
      apply exists_node_iff
      intro node isNode
      simp only [inhabitedBy_iff_heldIn element, hasElement_world_iff isNode]
  | object properties depth =>
      apply exists_node_iff
      intro node isNode
      simp only [hasEntry_world_iff isNode, propertiesInhabitedBy_iff_propertiesHeldIn properties isNode]
  | union members depth multiline => exact someInhabitedBy_iff_someHeldIn members value

theorem someInhabitedBy_iff_someHeldIn (members : List TypeExpr) (value : Value) :
    SomeInhabitedBy graph members value ↔ SomeHeldIn graph.world members value := by
  cases members with
  | nil => rfl
  | cons member members =>
      rw [SomeInhabitedBy, SomeHeldIn, inhabitedBy_iff_heldIn member, someInhabitedBy_iff_someHeldIn members]

theorem propertiesInhabitedBy_iff_propertiesHeldIn (properties : List (Property TypeExpr)) {value : Value} {node : Node}
    (isNode : graph.nodeOf? value = some node) :
    PropertiesInhabitedBy graph properties node ↔ PropertiesHeldIn graph.world properties value := by
  cases properties with
  | nil => rfl
  | cons property properties =>
      obtain ⟨key, inner, optional⟩ := property
      simp only [PropertiesInhabitedBy, PropertiesHeldIn, inhabitedBy_iff_heldIn inner, hasEntry_world_iff isNode,
        propertiesInhabitedBy_iff_propertiesHeldIn properties isNode]

end

/-- A type holds what its variants hold together. -/
theorem inhabitedBy_iff_exists_variant {type : TypeExpr} :
    type.InhabitedBy graph value ↔ ∃ variant ∈ ArrayUnion.variants type, variant.InhabitedBy graph value := by
  simp only [inhabitedBy_iff_heldIn]
  exact heldIn_iff_exists_variant

theorem inhabitedBy_unknown : unknown.InhabitedBy graph value :=
  .inl rfl

/-- The type of an object without keys holds exactly the objects without entries. -/
theorem inhabitedBy_emptyObject_iff :
    emptyObject.InhabitedBy graph value ↔
      ∃ node, graph.nodeOf? value = some node ∧ node.isObject = true ∧
        ∀ key part, ¬graph.HasEntry node key part := by
  rw [inhabitedBy_iff_heldIn, heldIn_emptyObject_iff]
  symm
  apply exists_node_iff
  intro node isNode
  simp only [hasEntry_world_iff isNode]

/-- Depths do not show in values. -/
theorem inhabitedBy_mapDepths_iff {onLines onOneLine : Int → Int} (type : TypeExpr) (value : Value) :
    (type.mapDepths onLines onOneLine).InhabitedBy graph value ↔ type.InhabitedBy graph value := by
  simp only [inhabitedBy_iff_heldIn]
  exact heldIn_mapDepths_iff type value

/-- Regular types with the same text hold the same values. -/
theorem inhabitedBy_iff_of_render_eq {settings : Settings} {left right : TypeExpr} (leftRegular : left.Regular)
    (rightRegular : right.Regular) (same : left.render settings = right.render settings) :
    left.InhabitedBy graph value ↔ right.InhabitedBy graph value := by
  simp only [inhabitedBy_iff_heldIn]
  exact heldIn_iff_of_render_eq leftRegular rightRegular same

section Unions

variable {settings : Settings} {types : List TypeExpr}

/-- The variants of some types hold together what the types hold together. -/
theorem Represents.exists_inhabitedBy_iff {variants : List TypeExpr}
    (represents : Represents settings variants types) (single : ∀ type ∈ types, type.Single) :
    (∃ variant ∈ variants, variant.InhabitedBy graph value) ↔ ∃ type ∈ types, type.InhabitedBy graph value := by
  simp only [inhabitedBy_iff_heldIn]
  exact represents.exists_heldIn_iff single

theorem inhabitedBy_sortedUnion_iff (single : ∀ type ∈ types, type.Single) :
    (sortedUnion settings types).InhabitedBy graph value ↔ ∃ type ∈ types, type.InhabitedBy graph value := by
  simp only [inhabitedBy_iff_heldIn]
  exact heldIn_sortedUnion_iff single

theorem inhabitedBy_unionOf_distinctByText_iff (single : ∀ type ∈ types, type.Single) :
    (unionOf (distinctByText settings types)).InhabitedBy graph value ↔
      ∃ type ∈ types, type.InhabitedBy graph value := by
  simp only [inhabitedBy_iff_heldIn]
  exact heldIn_unionOf_distinctByText_iff single

end Unions

end Inhabited

end TypeExpr

end SampleTypes
