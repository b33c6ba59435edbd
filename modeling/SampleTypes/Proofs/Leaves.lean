import SampleTypes.Proofs.InferredTypes
import SampleTypes.Proofs.Unambiguous

/-!
# Leaves of inferred types

Which leaves an inferred type has: the types of the single values inside the value, the marks of containers
that are met inside themselves, and the unknown elements of empty arrays.  Merging, unwrapping and leaving out
repeated texts neither lose nor invent a leaf.
-/

namespace SampleTypes

namespace TypeExpr

mutual

/-- The leaves of a type, from left to right; what is said of the values of a record is left out. -/
def leaves : TypeExpr → List TypeExpr
  | .primitive name => [.primitive name]
  | .callable => [.callable]
  | .circular => [.circular]
  | .record _ => []
  | .array element => element.leaves
  | .object properties _ => propertyLeaves properties
  | .union members _ _ => memberLeaves members

def memberLeaves : List TypeExpr → List TypeExpr
  | [] => []
  | member :: members => member.leaves ++ memberLeaves members

def propertyLeaves : List (Property TypeExpr) → List TypeExpr
  | [] => []
  | ⟨_, value, _⟩ :: properties => value.leaves ++ propertyLeaves properties

end

/-- Whether one of the types has a leaf. -/
def SomeLeaf (types : List TypeExpr) (leaf : TypeExpr) : Prop :=
  ∃ type ∈ types, leaf ∈ type.leaves

variable {settings : Settings} {leaf : TypeExpr}

theorem mem_memberLeaves_iff {members : List TypeExpr} :
    leaf ∈ memberLeaves members ↔ SomeLeaf members leaf := by
  induction members with
  | nil => simp [memberLeaves, SomeLeaf]
  | cons member members induction => simp [memberLeaves, SomeLeaf, induction]

theorem mem_propertyLeaves_iff {properties : List (Property TypeExpr)} :
    leaf ∈ propertyLeaves properties ↔ ∃ property ∈ properties, leaf ∈ property.value.leaves := by
  induction properties with
  | nil => simp [propertyLeaves]
  | cons property properties induction => simp [propertyLeaves, induction]

theorem mem_leaves_unionOf_iff {members : List TypeExpr} {depth : Int} {multiline : Bool} :
    leaf ∈ (unionOf members depth multiline).leaves ↔ SomeLeaf members leaf := by
  rcases unionOf_cases members depth multiline with ⟨member, rfl, same⟩ | ⟨-, same⟩
  · rw [same]
    simp [SomeLeaf]
  · rw [same, leaves, mem_memberLeaves_iff]

section MapDepths

variable {onLines onOneLine : Int → Int}

mutual

/-- Depths do not show in leaves. -/
theorem leaves_mapDepths (type : TypeExpr) : (type.mapDepths onLines onOneLine).leaves = type.leaves := by
  cases type with
  | primitive name => rfl
  | callable => rfl
  | circular => rfl
  | record value => rfl
  | array element => exact leaves_mapDepths element
  | object properties depth => exact propertyLeaves_mapDepths properties
  | union members depth multiline => exact memberLeaves_mapDepths members

theorem memberLeaves_mapDepths (members : List TypeExpr) :
    memberLeaves (mapDepthsMembers onLines onOneLine members) = memberLeaves members := by
  cases members with
  | nil => rfl
  | cons member members =>
      rw [mapDepthsMembers, memberLeaves, memberLeaves, leaves_mapDepths member,
        memberLeaves_mapDepths members]

theorem propertyLeaves_mapDepths (properties : List (Property TypeExpr)) :
    propertyLeaves (mapDepthsProperties onLines onOneLine properties) = propertyLeaves properties := by
  cases properties with
  | nil => rfl
  | cons property properties =>
      obtain ⟨key, value, optional⟩ := property
      rw [mapDepthsProperties, propertyLeaves, propertyLeaves, leaves_mapDepths value,
        propertyLeaves_mapDepths properties]

end

end MapDepths

/-- Regular types with the same text have the same leaves. -/
theorem leaves_eq_of_render_eq {left right : TypeExpr} (leftRegular : left.Regular)
    (rightRegular : right.Regular) (same : left.render settings = right.render settings) :
    left.leaves = right.leaves := by
  have alike := normal_eq_of_render_eq settings leftRegular rightRegular same
  calc
    left.leaves = (left.normal settings).leaves := (leaves_mapDepths left).symm
    _ = (right.normal settings).leaves := by rw [alike]
    _ = right.leaves := leaves_mapDepths right

/-- Leaving out types with a text that is there already loses no leaf. -/
theorem Represents.someLeaf_iff {variants types : List TypeExpr}
    (represents : Represents settings variants types) (single : ∀ type ∈ types, type.Single) :
    SomeLeaf variants leaf ↔ SomeLeaf types leaf := by
  constructor
  · rintro ⟨variant, member, leafMember⟩
    exact ⟨variant, represents.mem_of_mem variant member, leafMember⟩
  · rintro ⟨type, member, leafMember⟩
    obtain ⟨variant, variantMember, same⟩ := represents.exists_mem type member
    have variantSingle := single variant (represents.mem_of_mem variant variantMember)
    rw [← leaves_eq_of_render_eq variantSingle.2 (single type member).2 same] at leafMember
    exact ⟨variant, variantMember, leafMember⟩

theorem mem_leaves_sortedUnion_iff {types : List TypeExpr} (single : ∀ type ∈ types, type.Single) :
    leaf ∈ (sortedUnion settings types).leaves ↔ SomeLeaf types leaf := by
  rw [sortedUnion_eq, mem_leaves_unionOf_iff]
  exact (represents_sortedByText settings types).someLeaf_iff single

theorem mem_leaves_unionOf_distinctByText_iff {types : List TypeExpr}
    (single : ∀ type ∈ types, type.Single) :
    leaf ∈ (unionOf (distinctByText settings types)).leaves ↔ SomeLeaf types leaf := by
  rw [mem_leaves_unionOf_iff]
  exact (represents_distinctByText settings types).someLeaf_iff single

/-- Taking off one level of array keeps the leaves. -/
theorem someLeaf_unwrapArray_iff {type : TypeExpr} :
    SomeLeaf type.unwrapArray leaf ↔ leaf ∈ type.leaves := by
  unfold unwrapArray
  split
  · rw [leaves, leaves, mem_memberLeaves_iff]
  · rw [leaves]
    simp [SomeLeaf]
  · simp [SomeLeaf]

end TypeExpr

theorem ArrayUnion.mem_leaves_arrayOfArrays_iff {settings : Settings} {leaf : TypeExpr}
    {types : List TypeExpr} (single : ∀ type ∈ types, type.Single) :
    leaf ∈ (arrayOfArrays settings types).leaves ↔ TypeExpr.SomeLeaf types leaf := by
  have unwrappedSingle := TypeExpr.single_flatMap_unwrapArray single
  rw [arrayOfArrays, TypeExpr.leaves, TypeExpr.leaves, TypeExpr.mem_leaves_sortedUnion_iff unwrappedSingle]
  constructor
  · rintro ⟨part, member, leafMember⟩
    obtain ⟨type, typeMember, partMember⟩ := List.mem_flatMap.mp member
    exact ⟨type, typeMember, TypeExpr.someLeaf_unwrapArray_iff.mp ⟨part, partMember, leafMember⟩⟩
  · rintro ⟨type, typeMember, leafMember⟩
    obtain ⟨part, partMember, partLeaf⟩ := TypeExpr.someLeaf_unwrapArray_iff.mpr leafMember
    exact ⟨part, List.mem_flatMap.mpr ⟨type, typeMember, partMember⟩, partLeaf⟩

namespace Graph

/-- The leaves that the contents of a value give its type when some containers are open around it. -/
inductive Yields (graph : Graph) : List Address → Value → TypeExpr → Prop
  | leaf (opened : List Address) (leaf : Leaf) : Yields graph opened (.leaf leaf) leaf.type
  | missing {opened : List Address} {address : Address} (isMissing : graph.node? address = none) :
      Yields graph opened (.container address) .unknown
  | circular {opened : List Address} {address : Address} {node : Node}
      (isNode : graph.node? address = some node) (isOpen : address ∈ opened) :
      Yields graph opened (.container address) .circular
  | emptyArray {opened : List Address} {address : Address} {node : Node}
      (isNode : graph.node? address = some node) (fresh : address ∉ opened)
      (isArray : node.isObject = false) (empty : node.held = []) :
      Yields graph opened (.container address) .unknown
  | part {opened : List Address} {address : Address} {node : Node} {part : Value} {leaf : TypeExpr}
      (isNode : graph.node? address = some node) (fresh : address ∉ opened) (held : part ∈ node.held)
      (below : Yields graph (address :: opened) part leaf) :
      Yields graph opened (.container address) leaf

variable {graph : Graph} {opened : List Address} {address : Address} {node : Node} {leaf : TypeExpr}

theorem yields_leaf_iff {target : Leaf} : graph.Yields opened (.leaf target) leaf ↔ leaf = target.type := by
  constructor
  · rintro ⟨⟩
    rfl
  · rintro rfl
    exact .leaf opened target

theorem yields_missing_iff (isMissing : graph.node? address = none) :
    graph.Yields opened (.container address) leaf ↔ leaf = .unknown := by
  constructor
  · intro yields
    cases yields with
    | missing => rfl
    | emptyArray => rfl
    | circular isNode | part isNode =>
        rw [isMissing] at isNode
        cases isNode
  · rintro rfl
    exact .missing isMissing

theorem yields_open_iff (isNode : graph.node? address = some node) (isOpen : address ∈ opened) :
    graph.Yields opened (.container address) leaf ↔ leaf = .circular := by
  constructor
  · intro yields
    cases yields with
    | missing isMissing =>
        rw [isNode] at isMissing
        cases isMissing
    | circular => rfl
    | emptyArray _ fresh | part _ fresh => exact absurd isOpen fresh
  · rintro rfl
    exact .circular isNode isOpen

theorem yields_emptyArray_iff (isNode : graph.node? address = some node) (fresh : address ∉ opened)
    (isArray : node.isObject = false) (empty : node.held = []) :
    graph.Yields opened (.container address) leaf ↔ leaf = .unknown := by
  constructor
  · intro yields
    cases yields with
    | missing => rfl
    | circular _ isOpen => exact absurd isOpen fresh
    | emptyArray => rfl
    | part sameNode _ held =>
        cases isNode.symm.trans sameNode
        rw [empty] at held
        cases held
  · rintro rfl
    exact .emptyArray isNode fresh isArray empty

/-- A container that is not open yields what is in it, unless it is an empty array. -/
theorem yields_container_iff (isNode : graph.node? address = some node) (fresh : address ∉ opened)
    (noEmptyArray : node.isObject = true ∨ node.held ≠ []) :
    graph.Yields opened (.container address) leaf ↔
      ∃ part ∈ node.held, graph.Yields (address :: opened) part leaf := by
  constructor
  · intro yields
    cases yields with
    | missing isMissing =>
        rw [isNode] at isMissing
        cases isMissing
    | circular _ isOpen => exact absurd isOpen fresh
    | emptyArray sameNode _ isArray empty =>
        cases isNode.symm.trans sameNode
        rw [isArray] at noEmptyArray
        simp [empty] at noEmptyArray
    | part sameNode _ held below =>
        cases isNode.symm.trans sameNode
        exact ⟨_, held, below⟩
  · rintro ⟨part, held, below⟩
    exact .part isNode fresh held below

/-- An object that is not open yields what the values under its keys yield. -/
theorem yields_object_iff {value : Value} {entries : List (String × List Value)}
    (isObject : graph.isObject value = true) (fresh : value.isOpen opened = false)
    (listing : graph.entries value = .ok entries) :
    graph.Yields opened value leaf ↔
      ∃ key part, Filed entries key part ∧ graph.Yields (value.open opened) part leaf := by
  obtain ⟨address, node, rfl, isNode, nodeIsObject⟩ := isObject_eq_true_iff.mp isObject
  rw [entries_container isNode] at listing
  rw [yields_container_iff isNode (Value.isOpen_container_eq_false_iff.mp fresh) (.inl nodeIsObject)]
  constructor
  · rintro ⟨part, held, yields⟩
    obtain ⟨key, filed⟩ := (mem_held_iff_of_entries listing).mp held
    exact ⟨key, part, filed, yields⟩
  · rintro ⟨key, part, filed, yields⟩
    exact ⟨part, (mem_held_iff_of_entries listing).mpr ⟨key, filed⟩, yields⟩

end Graph

/-- The types that answer calls are single and have the leaves that are yielded. -/
def Graph.Faithful (graph : Graph) : Assignment :=
  fun call type => type.Single ∧ ∀ leaf, leaf ∈ type.leaves ↔ graph.Yields call.opened call.value leaf

section Step

variable {graph : Graph} {settings : Settings} {opened : List Address} {depth : Int} {leaf : TypeExpr}

theorem single_of_faithful {α : Type} {items : List α} {types : List TypeExpr} {call : α → Call}
    (pairs : List.Forall₂ (fun item type => graph.Faithful (call item) type) items types) :
    ∀ type ∈ types, type.Single :=
  each_of_forall₂ pairs fun _ _ faithful => faithful.1

/-- The types of several values have the leaves that one of the values yields. -/
theorem someLeaf_iff_of_faithful {α : Type} {items : List α} {types : List TypeExpr} {call : α → Call}
    (pairs : List.Forall₂ (fun item type => graph.Faithful (call item) type) items types) :
    TypeExpr.SomeLeaf types leaf ↔
      ∃ item ∈ items, graph.Yields (call item).opened (call item).value leaf := by
  constructor
  · rintro ⟨type, member, leafMember⟩
    obtain ⟨item, itemMember, faithful⟩ := pairs.exists_left member
    exact ⟨item, itemMember, (faithful.2 leaf).mp leafMember⟩
  · rintro ⟨item, itemMember, yields⟩
    obtain ⟨type, member, faithful⟩ := pairs.exists_right itemMember
    exact ⟨type, member, (faithful.2 leaf).mpr yields⟩

/-- A merged object has the leaves that the values in the objects yield. -/
theorem Merge.Builds.mem_leaves_iff {objects : List Value} {type : TypeExpr}
    (built : Merge.Builds graph settings graph.Faithful opened depth objects type) :
    leaf ∈ type.leaves ↔
      ∃ object ∈ objects, ∃ entries key part, graph.entries object = .ok entries ∧
        Filed entries key part ∧ graph.Yields (object.open opened) part leaf := by
  cases built with
  | nothing => simp [TypeExpr.anyObject, TypeExpr.leaves]
  | @noKeys _ described nonempty describing noKeys =>
      constructor
      · intro impossible
        cases impossible
      · rintro ⟨object, member, entries, key, part, listing, ⟨entry, entryMember, rfl, -⟩, -⟩
        obtain ⟨description, descriptionMember, -, sameListing⟩ :=
          (forall₂_of_describe describing).exists_right member
        cases listing.symm.trans sameListing
        have known : entry.1 ∈ keys described :=
          mem_keys_iff.mpr ⟨description, descriptionMember, List.mem_map_of_mem entryMember⟩
        rw [noKeys] at known
        cases known
  | @properties _ described properties nonempty describing someKeys built =>
      rw [TypeExpr.leaves, TypeExpr.mem_propertyLeaves_iff]
      constructor
      · rintro ⟨property, member, leafMember⟩
        obtain ⟨key, known, types, contributed, rfl⟩ := built.exists_left member
        rw [TypeExpr.mem_leaves_sortedUnion_iff (single_of_faithful contributed),
          someLeaf_iff_of_faithful contributed] at leafMember
        obtain ⟨⟨object, part⟩, contributorMember, yields⟩ := leafMember
        obtain ⟨objectMember, entries, listing, filed⟩ :=
          (mem_contributors_iff_filed describing).mp contributorMember
        exact ⟨object, objectMember, entries, key, part, listing, filed, yields⟩
      · rintro ⟨object, objectMember, entries, key, part, listing, filed, yields⟩
        have contributorMember :=
          (mem_contributors_iff_filed describing).mpr ⟨objectMember, entries, listing, filed⟩
        have known : key ∈ keys described := by
          obtain ⟨description, member, -, partMember⟩ := mem_contributors_iff.mp contributorMember
          obtain ⟨entry, entryMember, rfl, -⟩ := filed_of_mem_valuesUnder partMember
          exact mem_keys_iff.mpr ⟨description, member, List.mem_map_of_mem entryMember⟩
        obtain ⟨property, member, types, contributed, rfl⟩ := built.exists_right known
        refine ⟨_, member, ?_⟩
        rw [TypeExpr.mem_leaves_sortedUnion_iff (single_of_faithful contributed),
          someLeaf_iff_of_faithful contributed]
        exact ⟨(object, part), contributorMember, yields⟩

theorem Merge.Builds.exists_entries {typed : Assignment} {objects : List Value} {type : TypeExpr}
    (built : Merge.Builds graph settings typed opened depth objects type) {object : Value}
    (member : object ∈ objects) : ∃ entries, graph.entries object = .ok entries := by
  cases built with
  | nothing => cases member
  | noKeys nonempty describing | properties nonempty describing =>
      obtain ⟨description, -, -, listing⟩ := (forall₂_of_describe describing).exists_right member
      exact ⟨description.entries, listing⟩

/-- Objects that are not open lose no leaf when they are merged. -/
theorem Merge.Builds.mem_leaves_iff_yields {objects : List Value} {type : TypeExpr}
    (built : Merge.Builds graph settings graph.Faithful opened depth objects type)
    (fresh : ∀ object ∈ objects, graph.isObject object = true ∧ object.isOpen opened = false) :
    leaf ∈ type.leaves ↔ ∃ object ∈ objects, graph.Yields opened object leaf := by
  rw [built.mem_leaves_iff]
  constructor
  · rintro ⟨object, member, entries, key, part, listing, filed, yields⟩
    exact ⟨object, member,
      (Graph.yields_object_iff (fresh object member).1 (fresh object member).2 listing).mpr
        ⟨key, part, filed, yields⟩⟩
  · rintro ⟨object, member, yields⟩
    obtain ⟨entries, listing⟩ := built.exists_entries member
    obtain ⟨key, part, filed, partYields⟩ :=
      (Graph.yields_object_iff (fresh object member).1 (fresh object member).2 listing).mp yields
    exact ⟨object, member, entries, key, part, listing, filed, partYields⟩

theorem ArrayUnion.someLeaf_variants_iff {type : TypeExpr} :
    TypeExpr.SomeLeaf (variants type) leaf ↔ leaf ∈ type.leaves := by
  unfold variants
  split
  · rw [TypeExpr.leaves, TypeExpr.mem_memberLeaves_iff]
  · simp [TypeExpr.SomeLeaf]

/-- Distinct shapes have the leaves of all elements, also when a single shape is laid out again. -/
theorem ArrayUnion.BuildsShapes.mem_leaves_iff {elements : List Value} {type : TypeExpr}
    (built : ArrayUnion.BuildsShapes settings graph.Faithful opened depth elements type) :
    leaf ∈ type.leaves ↔ ∃ element ∈ elements, graph.Yields opened element leaf := by
  cases built with
  | @one first others types shape _ elementTypes agree again =>
      have represents := TypeExpr.represents_distinctByText settings types
      have single := single_of_faithful elementTypes
      have everyLeaf : TypeExpr.SomeLeaf types leaf ↔ _ := someLeaf_iff_of_faithful elementTypes
      rw [← represents.someLeaf_iff single, agree] at everyLeaf
      obtain ⟨firstType, firstMember, firstFaithful⟩ := elementTypes.exists_right List.mem_cons_self
      obtain ⟨variant, variantMember, sameText⟩ := represents.exists_mem firstType firstMember
      have variantSingle := single variant (represents.mem_of_mem variant variantMember)
      rw [agree, List.mem_singleton] at variantMember
      have sameLeaves := TypeExpr.leaves_eq_of_render_eq variantSingle.2 firstFaithful.1.2 sameText
      rw [variantMember] at sameLeaves
      rw [← everyLeaf, again.2 leaf, ← firstFaithful.2 leaf, ← sameLeaves]
      simp [TypeExpr.SomeLeaf]
  | @several _ types elementTypes differ =>
      rw [TypeExpr.leaves, TypeExpr.mem_memberLeaves_iff,
        (TypeExpr.represents_distinctByText settings types).someLeaf_iff (single_of_faithful elementTypes)]
      exact someLeaf_iff_of_faithful elementTypes

/-- The type of an array has the leaves of all elements. -/
theorem ArrayUnion.Builds.mem_leaves_iff {elements : List Value} {type : TypeExpr} {kind : ArrayKind}
    (isKind : ArrayKind.ofElements graph opened elements = kind) (nonempty : elements ≠ [])
    (built : ArrayUnion.Builds graph settings graph.Faithful opened depth elements kind type) :
    leaf ∈ type.leaves ↔ ∃ element ∈ elements, graph.Yields opened element leaf := by
  cases built with
  | arrays merging elementTypes =>
      rw [mem_leaves_arrayOfArrays_iff (single_of_faithful elementTypes)]
      exact someLeaf_iff_of_faithful elementTypes
  | arrayShapes uniting built spansLines =>
      rw [TypeExpr.leaves]
      exact built.mem_leaves_iff
  | flatArrayShapes uniting built oneLine =>
      have parts := built.variants_single (fun _ _ faithful => faithful.1) nonempty
      rw [mem_leaves_arrayOfArrays_iff parts.2, someLeaf_variants_iff]
      exact built.mem_leaves_iff
  | objects merging built =>
      rw [TypeExpr.leaves]
      exact built.mem_leaves_iff_yields (ArrayKind.fresh_of_ofElements isKind)
  | objectShapes uniting built =>
      rw [TypeExpr.leaves]
      exact built.mem_leaves_iff
  | mixed elementTypes =>
      rw [TypeExpr.leaves, TypeExpr.mem_leaves_unionOf_distinctByText_iff (single_of_faithful elementTypes)]
      exact someLeaf_iff_of_faithful elementTypes

theorem Leaf.mem_leaves_type_iff {target : Leaf} : leaf ∈ target.type.leaves ↔ leaf = target.type := by
  have alone : target.type.leaves = [target.type] := by
    unfold Leaf.type
    split <;> rfl
  rw [alone, List.mem_singleton]

theorem Inference.mem_leaves_object_iff {properties : List (Property TypeExpr)} :
    leaf ∈ (if properties.isEmpty then TypeExpr.emptyObject else .object properties depth).leaves ↔
      ∃ property ∈ properties, leaf ∈ property.value.leaves := by
  cases properties with
  | nil => simp [TypeExpr.emptyObject, TypeExpr.leaves]
  | cons property properties =>
      rw [List.isEmpty_cons, if_neg Bool.false_ne_true, TypeExpr.leaves, TypeExpr.mem_propertyLeaves_iff]

/-- The properties of an object have the leaves that the values under its keys yield. -/
theorem Inference.mem_leaves_properties_iff {entries : List (String × List Value)}
    {properties : List (Property TypeExpr)}
    (built : List.Forall₂ (BuildsProperty settings graph.Faithful opened depth) entries properties) :
    (∃ property ∈ properties, leaf ∈ property.value.leaves) ↔
      ∃ key part, Filed entries key part ∧ graph.Yields opened part leaf := by
  constructor
  · rintro ⟨property, member, leafMember⟩
    obtain ⟨entry, entryMember, types, partTypes, rfl⟩ := built.exists_left member
    rw [TypeExpr.mem_leaves_unionOf_distinctByText_iff (single_of_faithful partTypes),
      someLeaf_iff_of_faithful partTypes] at leafMember
    obtain ⟨part, partMember, yields⟩ := leafMember
    exact ⟨entry.1, part, ⟨entry, entryMember, rfl, partMember⟩, yields⟩
  · rintro ⟨key, part, ⟨entry, entryMember, rfl, partMember⟩, yields⟩
    obtain ⟨property, member, types, partTypes, rfl⟩ := built.exists_right entryMember
    refine ⟨_, member, ?_⟩
    rw [TypeExpr.mem_leaves_unionOf_distinctByText_iff (single_of_faithful partTypes),
      someLeaf_iff_of_faithful partTypes]
    exact ⟨part, partMember, yields⟩

/-- A step keeps the leaves. -/
theorem Inference.Builds.faithful {call : Call} {type : TypeExpr}
    (built : Inference.Builds graph settings graph.Faithful call type) : graph.Faithful call type := by
  refine ⟨built.single fun _ _ faithful => faithful.1, ?_⟩
  intro leaf
  cases built with
  | leaf merging opened depth target => rw [Leaf.mem_leaves_type_iff, Graph.yields_leaf_iff]
  | missing isMissing =>
      rw [Graph.yields_missing_iff isMissing]
      exact List.mem_singleton
  | circular isNode isOpen =>
      rw [Graph.yields_open_iff isNode isOpen]
      exact List.mem_singleton
  | @object _ _ _ node entries properties isNode fresh isObject listing built =>
      rw [Graph.yields_container_iff isNode fresh (.inl isObject), mem_leaves_object_iff,
        mem_leaves_properties_iff built]
      constructor
      · rintro ⟨key, part, filed, yields⟩
        exact ⟨part, (Graph.mem_held_iff_of_entries listing).mpr ⟨key, filed⟩, yields⟩
      · rintro ⟨part, held, yields⟩
        obtain ⟨key, filed⟩ := (Graph.mem_held_iff_of_entries listing).mp held
        exact ⟨key, part, filed, yields⟩
  | @mergedObject opened _ address node _ isNode fresh isObject built =>
      have isFresh : ∀ object ∈ [Value.container address], graph.isObject object = true ∧
          object.isOpen opened = false := by
        intro object member
        rw [List.mem_singleton.mp member, Value.isOpen_container_eq_false_iff]
        exact ⟨Graph.isObject_eq_true_iff.mpr ⟨address, node, rfl, isNode, isObject⟩, fresh⟩
      rw [built.mem_leaves_iff_yields isFresh]
      simp
  | @emptyArray _ _ _ _ node isNode fresh isArray listing =>
      have empty : node.held = [] := by
        rw [Node.held_of_array isArray]
        exact List.nil_perm.mp (Graph.elements_perm_members listing)
      rw [Graph.yields_emptyArray_iff isNode fresh isArray empty]
      exact List.mem_singleton
  | @array _ _ _ _ node elements _ isNode fresh isArray listing nonempty built =>
      have sameMembers : ∀ element, element ∈ elements ↔ element ∈ node.held := by
        intro element
        rw [Node.held_of_array isArray]
        exact (Graph.elements_perm_members listing).mem_iff
      have someHeld : node.held ≠ [] := by
        obtain ⟨first, others, rfl⟩ := List.exists_cons_of_ne_nil nonempty
        exact List.ne_nil_of_mem ((sameMembers first).mp List.mem_cons_self)
      rw [Graph.yields_container_iff isNode fresh (.inr someHeld), built.mem_leaves_iff rfl nonempty]
      simp only [sameMembers]
  | @mergedArray _ _ _ node _ isNode fresh isMerged built =>
      obtain ⟨isArray, someMembers, isFresh⟩ := fresh_of_isMergedArray isNode isMerged
      rw [← Node.held_of_array isArray] at someMembers
      rw [Graph.yields_container_iff isNode fresh (.inr someMembers), TypeExpr.leaves,
        built.mem_leaves_iff_yields isFresh, Node.held_of_array isArray]

end Step

/-- The leaves of an inferred type are those that the value yields. -/
theorem Inference.faithful_of_answer {graph : Graph} {settings : Settings} {budget : Nat} {call : Call}
    {type : TypeExpr} (answer : (typer graph settings budget).Answers call type) :
    graph.Faithful call type :=
  answer_induction graph.Faithful
    (fun _ _ _ built => Builds.faithful (built.imp fun _ _ part => part.2)) budget answer

end SampleTypes
