import Mathlib.Tactic.IntervalCases
import SampleTypes.Proofs.FacetedWorlds
import SampleTypes.Proofs.Failure
import SampleTypes.Proofs.InferredDepths

/-!
# Soundness of inference

A value is held by the type that is inferred for it, unless it contains a member of a flag enumeration: among
the elements of an array such a member counts as an array, but by itself it is typed as a symbol.  So do containers of
several classes, and the same is proved where there are none inside arrays.
-/

namespace SampleTypes

/-- Nothing in a value is a member of a flag enumeration. -/
def Graph.FlagFree (graph : Graph) (value : Value) : Prop :=
  ∀ kind text literal standsFor mark,
    ¬graph.Reaches value (.leaf (.symbol kind text literal standsFor true mark))

namespace Graph

variable {graph : Graph} {value : Value}

theorem FlagFree.of_holds {part : Value} (flagFree : graph.FlagFree value) (holds : graph.Holds value part) :
    graph.FlagFree part :=
  fun kind text literal standsFor mark reaches => flagFree kind text literal standsFor mark (reaches.head holds)

theorem FlagFree.of_held {address : Address} {node : Node} {part : Value}
    (flagFree : graph.FlagFree (.container address)) (isNode : graph.node? address = some node)
    (held : part ∈ node.held) : graph.FlagFree part :=
  flagFree.of_holds ⟨node, isNode, held⟩

theorem FlagFree.of_mem_elements {address : Address} {node : Node} {elements : List Value}
    (flagFree : graph.FlagFree (.container address)) (isNode : graph.node? address = some node)
    (isArray : node.isObject = false) (listing : graph.elements node = .ok elements) :
    ∀ element ∈ elements, graph.FlagFree element :=
  fun _ member => flagFree.of_held isNode (node.mem_held_of_perm isArray (elements_perm_members listing) member)

/-- Where no container holds a flag, there is none in any container. -/
theorem flagFree_of_leaves {address : Address}
    (leaves : ∀ holder node kind text literal standsFor mark, graph.node? holder = some node →
      .leaf (.symbol kind text literal standsFor true mark) ∉ node.held) :
    graph.FlagFree (.container address) := by
  intro kind text literal standsFor mark reaches
  obtain isSame | ⟨whole, -, node, isNode, held⟩ := Relation.ReflTransGen.cases_tail reaches
  · cases isSame
  · cases whole with
    | leaf leaf => cases isNode
    | container holder => exact leaves holder node kind text literal standsFor mark isNode held

/-- What counts as an array is a container without entries, where there are no flags. -/
theorem FlagFree.exists_node_of_isArray (flagFree : graph.FlagFree value)
    (isArray : graph.isArray value = true) :
    ∃ node, graph.nodeOf? value = some node ∧ node.isObject = false := by
  cases value with
  | leaf leaf =>
      cases leaf with
      | symbol kind text literal standsFor isFlag mark =>
          cases isFlag with
          | true => exact absurd .refl (flagFree kind text literal standsFor mark)
          | false => cases isArray
      | _ => cases isArray
  | container address =>
      cases isNode : graph.node? address with
      | none => simp [Graph.isArray, isNode] at isArray
      | some node =>
          refine ⟨node, isNode, ?_⟩
          simpa [Graph.isArray, isNode] using isArray

end Graph

/-- An assignment under which types hold the values that they are assigned to, except for values with flags. -/
structure Assignment.Sound (graph : Graph) (typed : Assignment) : Prop where
  single {call : Call} {type : TypeExpr} (assigned : typed call type) : type.Single
  inhabited {call : Call} {type : TypeExpr} (assigned : typed call type) (below : 0 ≤ call.depth)
    (flagFree : graph.FlagFree call.value) : type.InhabitedBy graph call.value
  /-- One level deeper the same type is assigned, laid out deeper. -/
  deeper {opened : List Address} {depth : Int} {value : Value} {type typeBelow : TypeExpr}
    (below : 0 ≤ depth) (assigned : typed ⟨false, opened, depth, value⟩ type)
    (assignedBelow : typed ⟨false, opened, depth + 1, value⟩ typeBelow) : typeBelow = type.deepen 1

section Sound

variable {graph : Graph} {settings : Settings} {typed : Assignment} {opened : List Address} {depth : Int}

theorem Leaf.inhabitedBy_type (leaf : Leaf) : leaf.type.InhabitedBy graph (.leaf leaf) := by
  cases leaf with
  | null => exact .inr ⟨_, rfl, .null⟩
  | undefined => exact .inr ⟨_, rfl, .undefined⟩
  | boolean value => exact .inr ⟨_, rfl, .boolean value⟩
  | integer value kind =>
      rw [Leaf.type]
      split
      · rename_i safe
        simp only [greatestSafeInteger, Nat.pow_eq] at safe
        exact .inr ⟨_, rfl, .safeInteger kind (by omega)⟩
      · rename_i large
        simp only [greatestSafeInteger, Nat.pow_eq] at large
        exact .inr ⟨_, rfl, .largeInteger kind (by omega)⟩
  | numeral value mark => exact .inr ⟨_, rfl, .numeral value mark⟩
  | text value kind => exact .inr ⟨_, rfl, .text value kind⟩
  | symbol kind text literal standsFor isFlag mark =>
      exact .inr ⟨_, rfl, .symbol kind text literal standsFor isFlag mark⟩
  | function | recordType => exact ⟨_, rfl, trivial⟩
  | bytes | buffer | other => exact TypeExpr.inhabitedBy_unknown

theorem Merge.exists_description {objects : List Value} {described : List Described}
    (describing : describe graph objects = .ok described) {address : Address} {node : Node}
    (member : .container address ∈ objects) (isNode : graph.node? address = some node) :
    ∃ description ∈ described, description.object = .container address ∧
      graph.entriesOfNode node = .ok description.entries := by
  obtain ⟨description, descriptionMember, same, listing⟩ :=
    (forall₂_of_describe describing).exists_right member
  rw [Graph.entries_container isNode] at listing
  exact ⟨description, descriptionMember, same, listing⟩

/-- The keys of one of the objects are keys of the merged shape. -/
theorem Merge.exists_key_of_hasEntry {objects : List Value} {described : List Described}
    (describing : describe graph objects = .ok described) {address : Address} {node : Node}
    (member : .container address ∈ objects) (isNode : graph.node? address = some node)
    {key : Except Fault String} {part : Value} (hasEntry : graph.HasEntry node key part) :
    ∃ text ∈ keys described, key = .ok text := by
  obtain ⟨description, descriptionMember, -, listing⟩ := exists_description describing member isNode
  obtain ⟨text, rfl, filed⟩ := (Graph.hasEntry_iff_filed listing).mp hasEntry
  exact ⟨text, mem_keys_iff.mpr ⟨description, descriptionMember, filed.mem_keys⟩, rfl⟩

/-- A merged property is required only if all objects have its key, and holds what they file under it. -/
theorem Merge.BuildsProperty.inhabitedBy (sound : typed.Sound graph) (below : 0 ≤ depth)
    {objects : List Value} {described : List Described}
    (describing : describe graph objects = .ok described) {key : String} {property : Property TypeExpr}
    (built : Merge.BuildsProperty settings typed opened depth described key property)
    {address : Address} {node : Node} (member : .container address ∈ objects)
    (isNode : graph.node? address = some node) (flagFree : graph.FlagFree (.container address)) :
    (property.optional = false → ∃ part, graph.HasEntry node (.ok property.key) part) ∧
      ∀ part, graph.HasEntry node (.ok property.key) part → property.value.InhabitedBy graph part := by
  obtain ⟨types, contributed, rfl⟩ := built
  obtain ⟨description, descriptionMember, -, listing⟩ := exists_description describing member isNode
  constructor
  · intro required
    rw [Bool.not_eq_false', List.all_eq_true] at required
    have hasKey := Described.hasKey_iff.mp (required description descriptionMember)
    obtain ⟨part, filed⟩ := (Graph.grouped_of_entriesOfNode listing).exists_filed hasKey
    exact ⟨part, (Graph.hasEntry_iff_filed listing).mpr ⟨key, rfl, filed⟩⟩
  · intro part hasEntry
    obtain ⟨text, sameKey, filed⟩ := (Graph.hasEntry_iff_filed listing).mp hasEntry
    cases sameKey
    have held := (Graph.mem_held_iff_of_entries listing).mpr ⟨key, filed⟩
    have contributor : (.container address, part) ∈ contributors described key :=
      (mem_contributors_iff_filed describing).mpr ⟨member, description.entries,
        (Graph.entries_container isNode).trans listing, filed⟩
    obtain ⟨type, typeMember, typedPart⟩ := contributed.exists_right contributor
    have single := each_of_forall₂ contributed fun _ _ assigned => sound.single assigned
    refine (TypeExpr.inhabitedBy_sortedUnion_iff single).mpr ⟨type, typeMember, ?_⟩
    exact sound.inhabited typedPart (by simp only; omega) (flagFree.of_held isNode held)

/-- A merged shape holds each of the objects. -/
theorem Merge.Builds.inhabitedBy (sound : typed.Sound graph) (below : 0 ≤ depth) {objects : List Value}
    {type : TypeExpr} (built : Merge.Builds graph settings typed opened depth objects type)
    {address : Address} {node : Node} (member : .container address ∈ objects)
    (isNode : graph.node? address = some node) (isObject : node.isObject = true)
    (flagFree : graph.FlagFree (.container address)) : type.InhabitedBy graph (.container address) := by
  cases built with
  | nothing => cases member
  | noKeys nonempty describing noKeys =>
      refine TypeExpr.inhabitedBy_emptyObject_iff.mpr ⟨node, isNode, isObject, ?_⟩
      intro key part hasEntry
      obtain ⟨text, known, -⟩ := exists_key_of_hasEntry describing member isNode hasEntry
      rw [noKeys] at known
      cases known
  | properties nonempty describing someKeys built =>
      refine ⟨node, isNode, isObject, ?_, TypeExpr.propertiesInhabitedBy_iff.mpr ?_⟩
      · intro key part hasEntry
        obtain ⟨text, known, rfl⟩ := exists_key_of_hasEntry describing member isNode hasEntry
        obtain ⟨property, propertyMember, types, -, rfl⟩ := built.exists_right known
        exact ⟨_, propertyMember, rfl⟩
      · intro property propertyMember
        obtain ⟨key, -, builtProperty⟩ := built.exists_left propertyMember
        exact builtProperty.inhabitedBy sound below describing member isNode flagFree

theorem ArrayUnion.BuildsShapes.inhabitedBy (sound : typed.Sound graph) (below : 0 ≤ depth)
    {elements : List Value} {shapes : TypeExpr}
    (built : ArrayUnion.BuildsShapes settings typed opened depth elements shapes)
    (flagFree : ∀ element ∈ elements, graph.FlagFree element) :
    ∀ element ∈ elements, shapes.InhabitedBy graph element := by
  intro element member
  cases built with
  | @one first others types shape _ elementTypes agree again =>
      -- One level deeper all elements have types with the text of the first one's type, and that type is the
      -- result laid out deeper.
      have represents := TypeExpr.represents_distinctByText settings types
      have agreed : ∀ typeBelow ∈ types, typeBelow.render settings = shape.render settings := by
        intro typeBelow typeMember
        obtain ⟨variant, variantMember, same⟩ := represents.exists_mem typeBelow typeMember
        rw [agree, List.mem_singleton] at variantMember
        rw [← same, variantMember]
      obtain ⟨typeBelow, typeMember, typedElement⟩ := elementTypes.exists_right member
      obtain ⟨firstBelow, firstMember, typedFirst⟩ := elementTypes.exists_right List.mem_cons_self
      have inhabited := sound.inhabited typedElement (by simp only; omega) (flagFree element member)
      have same := (agreed typeBelow typeMember).trans (agreed firstBelow firstMember).symm
      rw [TypeExpr.inhabitedBy_iff_of_render_eq (sound.single typedElement).2 (sound.single typedFirst).2
        same, sound.deeper below again typedFirst] at inhabited
      exact (TypeExpr.inhabitedBy_mapDepths_iff shapes element).mp inhabited
  | @several _ types elementTypes differ =>
      have represents := TypeExpr.represents_distinctByText settings types
      have single := each_of_forall₂ elementTypes fun _ _ assigned => sound.single assigned
      obtain ⟨type, typeMember, typedElement⟩ := elementTypes.exists_right member
      have inhabited := sound.inhabited typedElement (by simp only; omega) (flagFree element member)
      exact TypeExpr.someInhabitedBy_iff.mpr
        ((represents.exists_inhabitedBy_iff single).mpr ⟨type, typeMember, inhabited⟩)

/-- What a type holds of an array, the parts of the type without its array hold of the elements. -/
theorem TypeExpr.Single.exists_unwrapped {type : TypeExpr} (single : type.Single) {value : Value}
    {node : Node} (isNode : graph.nodeOf? value = some node) (isArray : node.isObject = false)
    (inhabited : type.InhabitedBy graph value) {element : Value} (member : element ∈ node.members) :
    ∃ part ∈ type.unwrapArray, part.InhabitedBy graph element := by
  have noLeaf (leaf : Leaf) : value ≠ .leaf leaf := by
    rintro rfl
    cases isNode
  cases type with
  | primitive name =>
      rcases inhabited with rfl | ⟨leaf, isLeaf, -⟩
      · exact ⟨.unknown, List.mem_singleton_self _, inhabitedBy_unknown⟩
      · exact absurd isLeaf (noLeaf leaf)
  | callable =>
      obtain ⟨leaf, isLeaf, -⟩ := inhabited
      exact absurd isLeaf (noLeaf leaf)
  | circular => exact ⟨.circular, List.mem_singleton_self _, trivial⟩
  | record type =>
      obtain ⟨objectNode, isObjectNode, isObject, -⟩ := inhabited
      cases isNode.symm.trans isObjectNode
      rw [isArray] at isObject
      cases isObject
  | object properties depth =>
      obtain ⟨objectNode, isObjectNode, isObject, -⟩ := inhabited
      cases isNode.symm.trans isObjectNode
      rw [isArray] at isObject
      cases isObject
  | array inner =>
      obtain ⟨arrayNode, isArrayNode, -, elementsInhabit⟩ := inhabited
      cases isNode.symm.trans isArrayNode
      rw [unwrapArray_array]
      exact inhabitedBy_iff_exists_variant.mp (elementsInhabit element member)
  | union members depth multiline => cases single.1

/-- Taking one level of array off some types and putting it back leaves no element of an array out. -/
theorem ArrayUnion.inhabitedBy_array_sortedUnion {types : List TypeExpr}
    (single : ∀ type ∈ types, type.Single) {value : Value} {node : Node}
    (isNode : graph.nodeOf? value = some node) (isArray : node.isObject = false) {type : TypeExpr}
    (typeMember : type ∈ types) (inhabited : type.InhabitedBy graph value) :
    (TypeExpr.array (TypeExpr.sortedUnion settings (types.flatMap TypeExpr.unwrapArray))).InhabitedBy graph
      value := by
  have partsSingle := TypeExpr.single_flatMap_unwrapArray single
  refine ⟨node, isNode, isArray, ?_⟩
  intro element member
  obtain ⟨part, partMember, partInhabited⟩ :=
    (single type typeMember).exists_unwrapped isNode isArray inhabited member
  exact (TypeExpr.inhabitedBy_sortedUnion_iff partsSingle).mpr
    ⟨part, List.mem_flatMap.mpr ⟨type, typeMember, partMember⟩, partInhabited⟩

theorem ArrayUnion.Builds.inhabitedBy (sound : typed.Sound graph) (below : 0 ≤ depth)
    {elements : List Value} (nonempty : elements ≠ []) {kind : ArrayKind}
    (isKind : ArrayKind.ofElements graph opened elements = kind) {type : TypeExpr}
    (built : ArrayUnion.Builds graph settings typed opened depth elements kind type)
    (flagFree : ∀ element ∈ elements, graph.FlagFree element) :
    ∃ inner, type = .array inner ∧ ∀ element ∈ elements, inner.InhabitedBy graph element := by
  cases built with
  | @arrays types merging elementTypes =>
      refine ⟨_, rfl, ?_⟩
      intro element member
      obtain ⟨node, isNode, isArray⟩ := (flagFree element member).exists_node_of_isArray
        (ArrayKind.ofElements_eq_arrays_iff.mp isKind element member)
      obtain ⟨type, typeMember, typedElement⟩ := elementTypes.exists_right member
      exact inhabitedBy_array_sortedUnion
        (each_of_forall₂ elementTypes fun _ _ assigned => sound.single assigned) isNode isArray typeMember
        (sound.inhabited typedElement (by simp only; omega) (flagFree element member))
  | arrayShapes uniting built spansLines => exact ⟨_, rfl, built.inhabitedBy sound below flagFree⟩
  | @flatArrayShapes shapes uniting built oneLine =>
      refine ⟨_, rfl, ?_⟩
      intro element member
      obtain ⟨node, isNode, isArray⟩ := (flagFree element member).exists_node_of_isArray
        (ArrayKind.ofElements_eq_arrays_iff.mp isKind element member)
      have single := built.variants_single (fun _ _ assigned => sound.single assigned) nonempty
      have inhabited := built.inhabitedBy sound below flagFree element member
      obtain ⟨variant, variantMember, variantInhabited⟩ :=
        TypeExpr.inhabitedBy_iff_exists_variant.mp inhabited
      exact inhabitedBy_array_sortedUnion single.2 isNode isArray variantMember variantInhabited
  | objects merging built =>
      refine ⟨_, rfl, ?_⟩
      intro element member
      obtain ⟨isObject, -⟩ := ArrayKind.fresh_of_ofElements isKind element member
      obtain ⟨address, node, rfl, isNode, nodeIsObject⟩ := Graph.isObject_eq_true_iff.mp isObject
      exact built.inhabitedBy sound below member isNode nodeIsObject (flagFree _ member)
  | objectShapes uniting built => exact ⟨_, rfl, built.inhabitedBy sound below flagFree⟩
  | mixed elementTypes =>
      refine ⟨_, rfl, ?_⟩
      intro element member
      obtain ⟨type, typeMember, typedElement⟩ := elementTypes.exists_right member
      have single := each_of_forall₂ elementTypes fun _ _ assigned => sound.single assigned
      refine (TypeExpr.inhabitedBy_unionOf_distinctByText_iff single).mpr ⟨type, typeMember, ?_⟩
      exact sound.inhabited typedElement (by simp only; omega) (flagFree element member)

/-- The properties of an object that is typed by itself hold its values. -/
theorem Inference.inhabitedBy_object (sound : typed.Sound graph) (below : 0 ≤ depth) {address : Address}
    {node : Node} {entries : List (String × List Value)} {properties : List (Property TypeExpr)}
    (isNode : graph.node? address = some node) (isObject : node.isObject = true)
    (listing : graph.entriesOfNode node = .ok entries)
    (built : List.Forall₂ (BuildsProperty settings typed opened depth) entries properties)
    (flagFree : graph.FlagFree (.container address)) :
    (TypeExpr.object properties depth).InhabitedBy graph (.container address) := by
  refine ⟨node, isNode, isObject, ?_, TypeExpr.propertiesInhabitedBy_iff.mpr ?_⟩
  · intro key part hasEntry
    obtain ⟨text, rfl, entry, entryMember, rfl, -⟩ := (Graph.hasEntry_iff_filed listing).mp hasEntry
    obtain ⟨property, propertyMember, types, -, rfl⟩ := built.exists_right entryMember
    exact ⟨_, propertyMember, rfl⟩
  · intro property propertyMember
    obtain ⟨entry, entryMember, types, partTypes, rfl⟩ := built.exists_left propertyMember
    have grouped := Graph.grouped_of_entriesOfNode listing
    constructor
    · intro _
      obtain ⟨part, filed⟩ := grouped.exists_filed (List.mem_map_of_mem entryMember)
      exact ⟨part, (Graph.hasEntry_iff_filed listing).mpr ⟨entry.1, rfl, filed⟩⟩
    · intro part hasEntry
      obtain ⟨text, sameKey, filed⟩ := (Graph.hasEntry_iff_filed listing).mp hasEntry
      cases sameKey
      have held := (Graph.mem_held_iff_of_entries listing).mpr ⟨entry.1, filed⟩
      obtain ⟨values, found, partMember⟩ := grouped.filed_iff_lookup.mp filed
      have sameValues : values = entry.2 := by
        have own := grouped.lookup_eq_of_mem (show (entry.1, entry.2) ∈ entries from entryMember)
        exact Option.some.inj (found.symm.trans own)
      rw [sameValues] at partMember
      obtain ⟨type, typeMember, typedPart⟩ := partTypes.exists_right partMember
      have single := each_of_forall₂ partTypes fun _ _ assigned => sound.single assigned
      refine (TypeExpr.inhabitedBy_unionOf_distinctByText_iff single).mpr ⟨type, typeMember, ?_⟩
      exact sound.inhabited typedPart (by simp only; omega) (flagFree.of_held isNode held)

theorem Inference.inhabitedBy_array {address : Address} {node : Node} {elements : List Value}
    {inner : TypeExpr} (isNode : graph.node? address = some node) (isArray : node.isObject = false)
    (listing : graph.elements node = .ok elements)
    (each : ∀ element ∈ elements, inner.InhabitedBy graph element) :
    (TypeExpr.array inner).InhabitedBy graph (.container address) := by
  refine ⟨node, isNode, isArray, ?_⟩
  intro element member
  exact each element ((Graph.elements_perm_members listing).mem_iff.mpr member)

/-- A step types the values inside a container so that the type of the container holds it. -/
theorem Inference.Builds.inhabitedBy (sound : typed.Sound graph) {call : Call} {type : TypeExpr}
    (built : Inference.Builds graph settings typed call type) (below : 0 ≤ call.depth)
    (flagFree : graph.FlagFree call.value) : type.InhabitedBy graph call.value := by
  cases built with
  | leaf merging opened depth leaf => exact leaf.inhabitedBy_type
  | missing isMissing => exact TypeExpr.inhabitedBy_unknown
  | circular isNode isOpen => exact trivial
  | @object _ _ _ _ entries properties isNode fresh isObject listing built =>
      have inhabited := inhabitedBy_object sound below isNode isObject listing built flagFree
      split
      · rename_i empty
        rw [List.isEmpty_iff.mp empty] at inhabited
        obtain ⟨node, isNode, isObject, noKeys, -⟩ := inhabited
        refine TypeExpr.inhabitedBy_emptyObject_iff.mpr ⟨node, isNode, isObject, ?_⟩
        intro key part hasEntry
        obtain ⟨property, impossible, -⟩ := noKeys key part hasEntry
        cases impossible
      · exact inhabited
  | mergedObject isNode fresh isObject built =>
      exact built.inhabitedBy sound below (List.mem_singleton_self _) isNode isObject flagFree
  | emptyArray isNode fresh isArray listing =>
      apply inhabitedBy_array isNode isArray listing
      intro element member
      cases member
  | @array _ _ _ _ _ elements _ isNode fresh isArray listing nonempty built =>
      obtain ⟨inner, rfl, each⟩ := built.inhabitedBy sound below nonempty rfl
        (flagFree.of_mem_elements isNode isArray listing)
      exact inhabitedBy_array isNode isArray listing each
  | @mergedArray _ _ _ node _ isNode fresh isMerged built =>
      obtain ⟨isArray, -, allObjects⟩ := fresh_of_isMergedArray isNode isMerged
      refine ⟨node, isNode, isArray, ?_⟩
      intro element member
      obtain ⟨isObject, -⟩ := allObjects element member
      obtain ⟨objectAddress, objectNode, rfl, isObjectNode, nodeIsObject⟩ :=
        Graph.isObject_eq_true_iff.mp isObject
      have elementFlagFree : graph.FlagFree (.container objectAddress) := by
        apply flagFree.of_held isNode
        rw [Node.held_of_array isArray]
        exact member
      exact built.inhabitedBy sound below member isObjectNode nodeIsObject elementFlagFree

end Sound

namespace Inference

variable {graph : Graph} {settings : Settings} {budget : Nat}

/-- The answer one level deeper is the same type, laid out deeper. -/
theorem deepen_of_answers {opened : List Address} {depth : Int} {value : Value} {type typeBelow : TypeExpr}
    (below : 0 ≤ depth) (answer : (typer graph settings budget).Answers ⟨false, opened, depth, value⟩ type)
    (answerBelow : (typer graph settings budget).Answers ⟨false, opened, depth + 1, value⟩ typeBelow) :
    typeBelow = type.deepen 1 := by
  have shallow : (typer graph settings budget).infer opened depth value = .ok type := answer
  have deep : (typer graph settings budget).infer opened (depth + 1) value = .ok typeBelow := answerBelow
  have deepened : (typer graph settings budget).infer opened (depth + 1) value =
      Typed.deepen 1 ((typer graph settings budget).infer opened depth value) :=
    (steady_typer graph settings 1 budget).infer_deeper below
  rw [shallow] at deepened
  exact Except.ok.inj (deep.symm.trans deepened)

/-- Every answer at a depth that is not negative holds the value it is given for. -/
theorem inhabitedBy_of_answer {call : Call} {type : TypeExpr}
    (answer : (typer graph settings budget).Answers call type) (below : 0 ≤ call.depth)
    (flagFree : graph.FlagFree call.value) : type.InhabitedBy graph call.value := by
  refine answer_induction (fun call type => 0 ≤ call.depth → graph.FlagFree call.value →
    type.InhabitedBy graph call.value) ?_ budget answer below flagFree
  intro budget call type built below flagFree
  refine built.inhabitedBy ⟨?_, ?_, ?_⟩ below flagFree
  · intro part partType assigned
    exact single_of_answer assigned.1
  · intro part partType assigned partBelow partFlagFree
    exact assigned.2 partBelow partFlagFree
  · intro opened depth value type typeBelow below assigned assignedBelow
    exact deepen_of_answers below assigned.1 assignedBelow.1

/-- The answers under a budget are sound. -/
theorem sound_answers (graph : Graph) (settings : Settings) (budget : Nat) :
    Assignment.Sound graph (typer graph settings budget).Answers where
  single := single_of_answer
  inhabited := inhabitedBy_of_answer
  deeper := deepen_of_answers

end Inference

namespace Graph

/-- A value without flags has a type that holds it, unless the contents of a container inside it cannot be
listed. -/
theorem infer_inhabited (graph : Graph) (settings : Settings) (value : Value) {depth : Int} (below : 0 ≤ depth)
    (flagFree : graph.FlagFree value) :
    (∃ type, graph.infer settings value depth = .ok type ∧ type.InhabitedBy graph value) ∨
      ∃ fault, graph.infer settings value depth = .error fault ∧ graph.FailsBelow value fault := by
  rcases infer_cases graph settings value depth with ⟨type, inferred⟩ | failed
  · left
    exact ⟨type, inferred, Inference.inhabitedBy_of_answer (answers_of_infer inferred) below flagFree⟩
  · exact .inr failed

end Graph

namespace FacetedGraph

/-- A value without flags, and without facets inside arrays, has a type that holds it, unless the contents of a container
that shows inside it cannot be listed. -/
theorem infer_sound (graph : FacetedGraph) (settings : Settings) (value : Value) {depth : Int} (below : 0 ≤ depth)
    (flagFree : graph.shown.FlagFree (graph.front value)) (bare : graph.BareInArrays value) :
    (∃ type, graph.infer settings value depth = .ok type ∧ type.HeldIn graph.world value) ∨
      ∃ fault, graph.infer settings value depth = .error fault ∧
        graph.shown.FailsBelow (graph.front value) fault := by
  rw [infer_shown settings depth bare]
  obtain ⟨type, inferred, inhabited⟩ | failed := graph.shown.infer_inhabited settings (graph.front value) below flagFree
  · exact .inl ⟨type, inferred, heldIn_of_inhabitedBy_shown inhabited⟩
  · exact .inr failed

theorem flagFree_showcase (address : Address) : showcase.shown.FlagFree (.container address) := by
  apply Graph.flagFree_of_leaves
  intro holder node kind text literal standsFor mark isShown held
  rw [node?_shown, Option.map_eq_some_iff] at isShown
  obtain ⟨inner, isNode, rfl⟩ := isShown
  have inBounds := Graph.address_lt_size isNode
  change holder < 6 at inBounds
  interval_cases holder <;> cases isNode <;> simp [showcase, Node.mapValues, Node.held, front, lastByKey, assignUnder] at held

theorem infer_sound_showcase :
    (0 : Int) ≤ 0 ∧ showcase.shown.FlagFree (showcase.front (.container 0)) ∧ showcase.BareInArrays (.container 0) ∧
      ∃ type, showcase.infer {} (.container 0) 0 = .ok type ∧ type.HeldIn showcase.world (.container 0) := by
  refine ⟨Int.le_refl 0, flagFree_showcase 0, bareInArrays_showcase _, ?_⟩
  obtain sound | ⟨fault, failed, -⟩ :=
    infer_sound showcase {} (.container 0) (Int.le_refl 0) (flagFree_showcase 0) (bareInArrays_showcase _)
  · exact sound
  · have typed : (showcase.infer {} (.container 0) 0).isOk = true := by decide +kernel
    rw [failed] at typed
    cases typed

theorem flagFree_misfits (address : Address) : misfits.shown.FlagFree (.container address) := by
  apply Graph.flagFree_of_leaves
  intro holder node kind text literal standsFor mark isShown held
  rw [node?_shown, Option.map_eq_some_iff] at isShown
  obtain ⟨inner, isNode, rfl⟩ := isShown
  have inBounds := Graph.address_lt_size isNode
  change holder < 12 at inBounds
  interval_cases holder <;> cases isNode <;>
    simp [misfits, Node.mapValues, Node.held, front, lastByKey, assignUnder] at held

/-- A list of a record with the elements of an array, and a list of a pair that is the member of an enumeration, are both
typed as lists of lists, of what the record and the pair are in the first place. -/
theorem infer_unsound_misfits :
    (∀ address, misfits.shown.FlagFree (.container address)) ∧
      (∃ type, misfits.infer {} (.container 0) = .ok type ∧ ¬type.HeldIn misfits.world (.container 0)) ∧
      misfits.infer {} (.container 2) = .ok (.array (.array (.primitive "symbol"))) ∧
      ¬(TypeExpr.array (.array (.primitive "symbol"))).HeldIn misfits.world (.container 2) := by
  have deckTyped : misfits.infer {} (.container 0) = .ok (.array (.array (deckType 1))) := by rfl
  refine ⟨flagFree_misfits, ⟨_, deckTyped, ?_⟩, by rfl, ?_⟩
  · rintro ⟨-, each⟩
    obtain ⟨-, eachInside⟩ := each (.container 5) ⟨_, rfl, List.mem_singleton_self _⟩
    obtain ⟨isObject, -⟩ := eachInside (.leaf (.integer 1)) ⟨_, rfl, List.mem_singleton_self _⟩
    cases isObject
  · rintro ⟨-, each⟩
    obtain ⟨-, eachInside⟩ := each (.container 7) ⟨_, rfl, List.mem_singleton_self _⟩
    obtain isUnknown | ⟨leaf, isLeaf, hasName⟩ := eachInside (.leaf (.integer 1)) ⟨_, rfl, List.mem_cons_self⟩
    · simp at isUnknown
    · cases isLeaf
      generalize isSymbol : "symbol" = name at hasName
      cases hasName <;> simp at isSymbol

end FacetedGraph

end SampleTypes
