import SampleTypes.Proofs.MergedShapes
import SampleTypes.Proofs.Widening

/-!
# Observed variants

Every variant of an inferred type comes from a value that it holds: none is left over from taking arrays off, from
merging or from choosing one type for several with the same text.  The one variant without a value is the unknown
element of an empty array.  This is the other direction of soundness, and rests on it; it fails for the same containers
inside arrays.
-/

namespace SampleTypes

/-- An array has an element that a type holds, or it is empty and the type is that of an unknown element. -/
def Graph.Exhibits (graph : Graph) (array : Value) (type : TypeExpr) : Prop :=
  ∃ node, graph.nodeOf? array = some node ∧ node.isObject = false ∧
    ((∃ part ∈ node.members, type.InhabitedBy graph part) ∨ (node.members = [] ∧ type = .unknown))

theorem Graph.FlagFree.not_isFlag {graph : Graph} {value : Value} (flagFree : graph.FlagFree value) :
    ¬value.IsFlag := by
  intro isFlag
  cases value with
  | leaf leaf =>
      cases leaf with
      | symbol kind text literal standsFor flag mark =>
          cases isFlag
          exact flagFree kind text literal standsFor mark .refl
      | _ => cases isFlag
  | container address => cases isFlag

section Step

variable {graph : Graph} {settings : Settings} {typed : Assignment} {opened : List Address} {depth : Int}
  {elements : List Value}

/-- Every variant of the element type of an array with elements holds one of the elements. -/
theorem ArrayUnion.Builds.exists_inhabitant (sound : typed.Sound graph) (below : 0 ≤ depth) (nonempty : elements ≠ [])
    {kind : ArrayKind} (isKind : ArrayKind.ofElements graph opened elements = kind) {inner : TypeExpr}
    (built : ArrayUnion.Builds graph settings typed opened depth elements kind (.array inner))
    (flagFree : ∀ element ∈ elements, graph.FlagFree element) :
    ∀ variant ∈ variants inner, ∃ element ∈ elements, variant.InhabitedBy graph element := by
  intro variant member
  have ofShapes (shapes : BuildsShapes settings typed opened depth elements inner) :
      ∃ element ∈ elements, variant.InhabitedBy graph element := by
    obtain ⟨element, elementMember, variantDepth, deeper, assigned⟩ :=
      shapes.exists_element (fun _ _ => sound.single) variant member
    exact ⟨element, elementMember, sound.inhabited assigned (by simp only; omega) (flagFree element elementMember)⟩
  -- A single variant holds all elements, because the whole type does.
  have ofSingle (noUnion : inner.isUnion = false) : ∃ element ∈ elements, variant.InhabitedBy graph element := by
    rw [TypeExpr.variants_eq_singleton noUnion, List.mem_singleton] at member
    obtain ⟨first, firstMember⟩ := List.exists_mem_of_ne_nil elements nonempty
    obtain ⟨_, ⟨⟩, each⟩ := built.inhabitedBy sound below nonempty isKind flagFree
    exact ⟨first, firstMember, member ▸ each first firstMember⟩
  cases built with
  | arrays | flatArrayShapes => exact ofSingle rfl
  | arrayShapes _ shapes | objectShapes _ shapes => exact ofShapes shapes
  | objects _ merged => exact ofSingle (merged.single fun _ _ => sound.single).1
  | @mixed types elementTypes =>
      have single := each_of_forall₂ elementTypes fun _ _ assigned => sound.single assigned
      have represents := TypeExpr.represents_distinctByText settings types
      rw [TypeExpr.variants_unionOf fun type isVariant => (represents.single single type isVariant).1] at member
      obtain ⟨element, elementMember, assigned⟩ := elementTypes.exists_left (represents.mem_of_mem variant member)
      exact ⟨element, elementMember,
        sound.inhabited assigned (by simp only; omega) (flagFree element elementMember)⟩

/-- A step types an array so that it exhibits every variant of its element type. -/
theorem Inference.Builds.exhibits (sound : typed.Sound graph) {call : Call} {type inner : TypeExpr}
    (built : Inference.Builds graph settings typed call type) (isArrayType : type = .array inner)
    (below : 0 ≤ call.depth) (flagFree : graph.FlagFree call.value) :
    ∀ variant ∈ ArrayUnion.variants inner, graph.Exhibits call.value variant := by
  intro variant member
  have notObject (isObject : type.IsObject) : graph.Exhibits call.value variant :=
    absurd isObject (TypeExpr.IsArray.not_isObject ⟨inner, isArrayType⟩)
  have notPlain (isPlain : type.IsPlain) : graph.Exhibits call.value variant :=
    absurd ⟨inner, isArrayType⟩ isPlain.noArray
  cases built with
  | leaf merging opened depth leaf => exact notPlain leaf.isPlain_type
  | missing => exact notPlain (TypeExpr.isPlain_primitive _)
  | circular => cases isArrayType
  | object =>
      apply notObject
      split
      · exact .inr ⟨_, rfl⟩
      · exact .inl ⟨_, _, rfl⟩
  | mergedObject _ _ _ built => exact notObject built.isObject
  | @emptyArray _ _ _ _ node isNode _ isArray listing =>
      cases isArrayType
      refine ⟨node, isNode, isArray, .inr ⟨?_, List.mem_singleton.mp member⟩⟩
      exact (Graph.elements_perm_members listing).symm.eq_nil
  | @array _ _ _ _ node elements _ isNode _ isArray listing nonempty built =>
      cases isArrayType
      obtain ⟨element, elementMember, inhabited⟩ := built.exists_inhabitant sound below nonempty rfl
        (flagFree.of_mem_elements isNode isArray listing) variant member
      exact ⟨node, isNode, isArray, .inl ⟨element, (Graph.elements_perm_members listing).mem_iff.mp elementMember,
        inhabited⟩⟩
  | @mergedArray _ _ _ node _ isNode fresh isMerged built =>
      cases isArrayType
      obtain ⟨isArray, someMembers, -⟩ := fresh_of_isMergedArray isNode isMerged
      rw [TypeExpr.variants_eq_singleton (built.single fun _ _ => sound.single).1, List.mem_singleton] at member
      obtain ⟨first, firstMember⟩ := List.exists_mem_of_ne_nil node.members someMembers
      obtain ⟨sameNode, isSameNode, -, each⟩ :=
        (Inference.Builds.mergedArray isNode fresh isMerged built).inhabitedBy sound below flagFree
      cases isSameNode.symm.trans (Graph.nodeOf?_container isNode)
      exact ⟨node, isNode, isArray, .inl ⟨first, firstMember, member ▸ each first firstMember⟩⟩

end Step

section Answers

variable {graph : Graph} {settings : Settings} {budget : Nat} {opened : List Address} {depth : Int}

/-- An array exhibits the variants of the element type that it is given. -/
theorem Inference.exhibits_of_answer {call : Call} {inner : TypeExpr}
    (answer : (typer graph settings budget).Answers call (.array inner)) (below : 0 ≤ call.depth)
    (flagFree : graph.FlagFree call.value) :
    ∀ variant ∈ ArrayUnion.variants inner, graph.Exhibits call.value variant := by
  obtain ⟨budget, built⟩ := exists_builds_of_answer answer
  exact built.exhibits (sound_answers graph settings budget) rfl below flagFree

/-- An array exhibits what is left of its type when one array is taken off.  The type of an open array is no array and
is left as it is. -/
theorem Inference.exhibits_of_mem_unwrapArray {call : Call} {type : TypeExpr}
    (answer : (typer graph settings budget).Answers call type) (below : 0 ≤ call.depth)
    (flagFree : graph.FlagFree call.value) (isArray : graph.isArray call.value = true)
    (whenOpen : call.value.isOpen call.opened = true → graph.Exhibits call.value .circular) :
    ∀ variant ∈ type.unwrapArray, graph.Exhibits call.value variant := by
  have byClass := typedByClass_of_answer answer
  cases isOpen : call.value.isOpen call.opened with
  | false =>
      obtain ⟨inner, rfl⟩ := byClass.array.mpr ⟨isArray, isOpen, flagFree.not_isFlag⟩
      rw [TypeExpr.unwrapArray_array]
      exact exhibits_of_answer answer below flagFree
  | true =>
      obtain rfl := byClass.circular.mpr ⟨.inl isArray, isOpen⟩
      intro variant member
      rw [List.mem_singleton.mp member]
      exact whenOpen isOpen

section Rows

variable {elements : List Value} (below : 0 ≤ depth) (flagFree : ∀ element ∈ elements, graph.FlagFree element)
  (whenOpen : ∀ element ∈ elements, element.isOpen opened = true → graph.Exhibits element .circular)
include below flagFree whenOpen

/-- The variants of arrays of arrays, found by taking one array off the types of the rows, are exhibited by the rows. -/
theorem ArrayUnion.exists_row_of_unwrapped (allArrays : ∀ element ∈ elements, graph.isArray element = true)
    {types : List TypeExpr} (answers : ∀ type ∈ types, ∃ row ∈ elements, ∃ rowDepth, depth ≤ rowDepth ∧
      (Inference.typer graph settings budget).Answers ⟨false, opened, rowDepth, row⟩ type) :
    ∀ variant ∈ variants (.sortedUnion settings (types.flatMap TypeExpr.unwrapArray)),
      ∃ row ∈ elements, graph.Exhibits row variant := by
  have single : ∀ type ∈ types, type.Single := by
    intro type member
    obtain ⟨_, _, _, _, answer⟩ := answers type member
    exact Inference.single_of_answer answer
  rw [TypeExpr.variants_sortedUnion (TypeExpr.single_flatMap_unwrapArray single)]
  intro variant member
  have isPart := (TypeExpr.represents_sortedByText settings _).mem_of_mem variant member
  obtain ⟨type, typeMember, partMember⟩ := List.mem_flatMap.mp isPart
  obtain ⟨row, rowMember, rowDepth, deeper, answer⟩ := answers type typeMember
  exact ⟨row, rowMember, Inference.exhibits_of_mem_unwrapArray answer (by simp only; omega) (flagFree row rowMember)
    (allArrays row rowMember) (whenOpen row rowMember) variant partMember⟩

/-- Where the elements of an array are typed as arrays, every variant inside of that type is exhibited by one of the
elements. -/
theorem ArrayUnion.Builds.exists_row {kind : ArrayKind} {element inner : TypeExpr}
    (built : Builds graph settings (Inference.typer graph settings budget).Answers opened depth elements kind
      (.array element))
    (isKind : ArrayKind.ofElements graph opened elements = kind) (isArray : element = .array inner) :
    ∀ variant ∈ variants inner, ∃ row ∈ elements, graph.Exhibits row variant := by
  have ofRow {row : Value} (rowMember : row ∈ elements) {merging : Bool} {rowDepth : Int} (deeper : depth ≤ rowDepth)
      (answer : (Inference.typer graph settings budget).Answers ⟨merging, opened, rowDepth, row⟩ (.array inner)) :
      ∀ variant ∈ variants inner, ∃ row ∈ elements, graph.Exhibits row variant :=
    fun variant member => ⟨row, rowMember,
      Inference.exhibits_of_answer answer (by simp only; omega) (flagFree row rowMember) variant member⟩
  have ofShapes (shapes : BuildsShapes settings (Inference.typer graph settings budget).Answers opened depth elements
      element) : ∀ variant ∈ variants inner, ∃ row ∈ elements, graph.Exhibits row variant := by
    rw [isArray] at shapes
    obtain ⟨row, rowMember, rowDepth, deeper, answer⟩ :=
      shapes.exists_element (fun _ _ => Inference.single_of_answer) (.array inner) (List.mem_singleton_self _)
    exact ofRow rowMember deeper answer
  cases built with
  | @arrays types merging elementTypes =>
      cases isArray
      apply exists_row_of_unwrapped below flagFree whenOpen (ArrayKind.ofElements_eq_arrays_iff.mp isKind)
      intro type typeMember
      obtain ⟨row, rowMember, answer⟩ := elementTypes.exists_left typeMember
      exact ⟨row, rowMember, depth + 1, by omega, answer⟩
  | flatArrayShapes uniting shapes =>
      cases isArray
      apply exists_row_of_unwrapped below flagFree whenOpen (ArrayKind.ofElements_eq_arrays_iff.mp isKind)
      exact shapes.exists_element fun _ _ => Inference.single_of_answer
  | arrayShapes _ shapes | objectShapes _ shapes => exact ofShapes shapes
  | objects _ merged => exact absurd merged.isObject (TypeExpr.IsArray.not_isObject ⟨inner, isArray⟩)
  | @mixed types elementTypes =>
      have single := each_of_forall₂ elementTypes fun _ _ => Inference.single_of_answer
      have represents := TypeExpr.represents_distinctByText settings types
      have isVariant : .array inner ∈ variants (.unionOf (TypeExpr.distinctByText settings types)) := by
        rw [isArray]
        exact List.mem_singleton_self _
      rw [TypeExpr.variants_unionOf fun type isVariant => (represents.single single type isVariant).1] at isVariant
      obtain ⟨row, rowMember, answer⟩ := elementTypes.exists_left (represents.mem_of_mem _ isVariant)
      exact ofRow rowMember (by omega) answer

end Rows

end Answers

namespace Graph

/-- Every variant of an element type holds one of the elements, and if the elements are typed as arrays, then every
variant inside of their type is exhibited by one of them. -/
structure ElementsObserved (graph : Graph) (node : Node) (element : TypeExpr) : Prop where
  elements : ∀ variant ∈ ArrayUnion.variants element, ∃ part ∈ node.members, variant.InhabitedBy graph part
  rows {inner : TypeExpr} (isArray : element = .array inner) :
    ∀ variant ∈ ArrayUnion.variants inner, ∃ row ∈ node.members, graph.Exhibits row variant

/-- Every variant of a property holds a value that one of some objects has under the key. -/
def PropertiesObserved (graph : Graph) (objects : List Value) (properties : List (Property TypeExpr)) : Prop :=
  ∀ property ∈ properties, ∀ variant ∈ ArrayUnion.variants property.value, ∃ object ∈ objects, ∃ part,
    graph.HasValue object (.ok property.key) part ∧ variant.InhabitedBy graph part

section Answers

variable {graph : Graph} {settings : Settings} {budget : Nat} {merging : Bool} {depth : Int} {address : Address}
  {node : Node} (isNode : graph.node? address = some node) (isArray : node.isObject = false)
  (someMembers : node.members ≠ []) (below : 0 ≤ depth) (flagFree : graph.FlagFree (.container address))
include isNode someMembers below flagFree

theorem exists_element_of_answer {element : TypeExpr}
    (answer : (Inference.typer graph settings budget).Answers ⟨merging, [], depth, .container address⟩
      (.array element)) :
    ∀ variant ∈ ArrayUnion.variants element, ∃ part ∈ node.members, variant.InhabitedBy graph part := by
  intro variant member
  obtain ⟨sameNode, isSameNode, -, exhibited⟩ := Inference.exhibits_of_answer answer below flagFree variant member
  cases isSameNode.symm.trans (nodeOf?_container isNode)
  obtain inhabited | ⟨noMembers, -⟩ := exhibited
  · exact inhabited
  · exact absurd noMembers someMembers

include isArray

theorem exists_row_of_answer {inner : TypeExpr}
    (answer : (Inference.typer graph settings budget).Answers ⟨merging, [], depth, .container address⟩
      (.array (.array inner))) :
    ∀ variant ∈ ArrayUnion.variants inner, ∃ row ∈ node.members, graph.Exhibits row variant := by
  intro variant member
  obtain ⟨budget, built⟩ := Inference.exists_builds_of_answer answer
  obtain ⟨-, isEmpty⟩ | ⟨elements, listing, -, elementsBuilt⟩ | ⟨shape, -, isShape, merged⟩ :=
    built.array_cases isNode List.not_mem_nil isArray
  · cases isEmpty
  · have members := elements_perm_members listing
    -- The only array that can be open is the whole one, and it has members.
    have whenOpen : ∀ element ∈ elements, element.isOpen [address] = true → graph.Exhibits element .circular := by
      intro element _ isOpen
      obtain rfl : element = .container address := by
        cases element with
        | leaf leaf => cases isOpen
        | container other => simpa [Value.isOpen] using isOpen
      obtain ⟨first, firstMember⟩ := List.exists_mem_of_ne_nil node.members someMembers
      exact ⟨node, isNode, isArray, .inl ⟨first, firstMember, trivial⟩⟩
    obtain ⟨row, rowMember, exhibits⟩ := elementsBuilt.exists_row below
      (flagFree.of_mem_elements isNode isArray listing) whenOpen rfl rfl variant member
    exact ⟨row, members.mem_iff.mp rowMember, exhibits⟩
  · cases isShape
    exact absurd merged.isObject (TypeExpr.IsArray.not_isObject ⟨inner, rfl⟩)

/-- An array with members is typed as an array of what is observed of them, when no other container is open. -/
theorem elementsObserved_of_answer {type : TypeExpr}
    (answer : (Inference.typer graph settings budget).Answers ⟨merging, [], depth, .container address⟩ type) :
    ∃ element, type = .array element ∧ graph.ElementsObserved node element := by
  have classified : graph.isArray (.container address) = true := by
    rw [isArray_container isNode, isArray]
    rfl
  obtain ⟨element, rfl⟩ := (Inference.typedByClass_of_answer answer).array.mpr
    ⟨classified, Value.isOpen_nil _, Value.not_isFlag_container address⟩
  refine ⟨element, rfl, exists_element_of_answer isNode someMembers below flagFree answer, ?_⟩
  rintro inner rfl
  exact exists_row_of_answer isNode isArray someMembers below flagFree answer

end Answers

/-- The values of objects are observed in their merged shape. -/
theorem propertiesObserved_of_built {graph : Graph} {settings : Settings} {budget : Nat} {opened : List Address}
    {depth : Int} {objects : List Value} {described : List Merge.Described}
    {properties : List (Property TypeExpr)}
    (below : 0 ≤ depth) (areObjects : ∀ object ∈ objects, graph.isObject object = true)
    (flagFree : ∀ object ∈ objects, graph.FlagFree object) (describing : Merge.describe graph objects = .ok described)
    (built : List.Forall₂
      (Merge.BuildsProperty settings (Inference.typer graph settings budget).Answers opened depth described)
      (Merge.keys described) properties) : graph.PropertiesObserved objects properties := by
  intro property propertyMember variant member
  obtain ⟨key, -, types, contributed, rfl⟩ := built.exists_left propertyMember
  have single := each_of_forall₂ contributed fun _ _ => Inference.single_of_answer
  rw [TypeExpr.variants_sortedUnion single] at member
  have isType := (TypeExpr.represents_sortedByText settings types).mem_of_mem variant member
  obtain ⟨⟨object, part⟩, contributor, answer⟩ := contributed.exists_left isType
  obtain ⟨objectMember, entries, listing, filed⟩ := (Merge.mem_contributors_iff_filed describing).mp contributor
  have isObject := areObjects object objectMember
  have partFlagFree := (flagFree object objectMember).of_holds (holds_of_filed isObject listing filed)
  exact ⟨object, objectMember, part, (hasValue_iff_filed isObject listing).mpr ⟨key, rfl, filed⟩,
    Inference.inhabitedBy_of_answer answer (by simp only; omega) partFlagFree⟩

/-- No variant of an inferred type is dead.  Each variant of the element type of an array with members holds one of
them; if the members are typed as arrays, each variant inside of that type holds an element of one of them, or it is
the unknown element of an empty one; and each variant of a property of a merged shape holds a value that one of the
objects has under the key. -/
theorem infer_variants_live (graph : Graph) (settings : Settings) {depth : Int} (below : 0 ≤ depth) :
    (∀ value node, graph.nodeOf? value = some node → node.isObject = false → node.members ≠ [] →
      graph.FlagFree value →
        (∃ element, graph.infer settings value depth = .ok (.array element) ∧ graph.ElementsObserved node element) ∨
          ∃ fault, graph.infer settings value depth = .error fault ∧ graph.FailsBelow value fault) ∧
      ∀ opened objects, objects ≠ [] → (∀ object ∈ objects, graph.isObject object = true) →
        (∀ object ∈ objects, graph.FlagFree object) →
          (∃ properties, graph.mergeShapes settings objects depth opened = .ok (.objectOf properties depth) ∧
              graph.PropertiesObserved objects properties) ∨
            ∃ fault, graph.mergeShapes settings objects depth opened = .error fault ∧
              graph.MergeFails settings opened depth objects fault := by
  constructor
  · intro value node isNodeOf isArray someMembers flagFree
    rcases infer_cases graph settings value depth with ⟨type, inferred⟩ | failed
    · cases value with
      | leaf leaf => cases isNodeOf
      | container address =>
          obtain ⟨element, rfl, observed⟩ :=
            elementsObserved_of_answer isNodeOf isArray someMembers below flagFree (answers_of_infer inferred)
          exact .inl ⟨element, inferred, observed⟩
    · exact .inr failed
  · intro opened objects nonempty areObjects flagFree
    cases merged : graph.mergeShapes settings objects depth opened with
    | error fault => exact .inr ⟨fault, rfl, mergeFails_of_mergeShapes areObjects merged⟩
    | ok type =>
        obtain ⟨described, properties, describing, rfl, built⟩ :=
          (Merge.builds_of_shapes merged).exists_properties nonempty
        exact .inl ⟨properties, rfl, propertiesObserved_of_built below areObjects flagFree describing built⟩

end Graph

namespace FacetedGraph

/-- An array has an element that a type holds, or it is empty and the type is that of an unknown element. -/
def Exhibits (graph : FacetedGraph) (array : Value) (type : TypeExpr) : Prop :=
  ∃ node, graph.arrayOf? array = some node ∧
    ((∃ part ∈ node.members, type.HeldIn graph.world part) ∨ (node.members = [] ∧ type = .unknown))

/-- Every variant of an element type holds one of the elements, and if the elements are typed as arrays, then every
variant inside of their type is exhibited by one of them. -/
structure ElementsObserved (graph : FacetedGraph) (array : Node) (element : TypeExpr) : Prop where
  elements : ∀ variant ∈ ArrayUnion.variants element, ∃ part ∈ array.members, variant.HeldIn graph.world part
  rows {inner : TypeExpr} (isArray : element = .array inner) :
    ∀ variant ∈ ArrayUnion.variants inner, ∃ row ∈ array.members, graph.Exhibits row variant

/-- Every variant of a property holds a value that one of some objects has under the key. -/
def PropertiesObserved (graph : FacetedGraph) (objects : List Value) (properties : List (Property TypeExpr)) : Prop :=
  ∀ property ∈ properties, ∀ variant ∈ ArrayUnion.variants property.value, ∃ object ∈ objects, ∃ part,
    graph.world.HasEntry object (.ok property.key) part ∧ variant.HeldIn graph.world part

variable {graph : FacetedGraph} {settings : Settings}

/-- An array with facets exhibits what it exhibits as it shows itself. -/
theorem exhibits_of_shown {value : Value} {variant : TypeExpr} (exhibits : graph.shown.Exhibits (graph.front value) variant) :
    graph.Exhibits value variant := by
  obtain ⟨node, isShown, isArray, observed⟩ := exhibits
  obtain ⟨address, inner, rfl, guise, isNode, rfl⟩ := exists_node_of_shown isShown
  rw [Node.isObject_mapValues] at isArray
  rw [Node.members_mapValues front_leaf] at observed
  refine ⟨inner, arrayAt?_of_guise guise isNode isArray, ?_⟩
  obtain ⟨part, member, inhabited⟩ | ⟨isEmpty, isUnknown⟩ := observed
  · obtain ⟨element, elementMember, rfl⟩ := List.mem_map.mp member
    exact .inl ⟨element, elementMember, heldIn_of_inhabitedBy_shown inhabited⟩
  · exact .inr ⟨List.map_eq_nil_iff.mp isEmpty, isUnknown⟩

theorem elementsObserved_of_shown {node : Node} {element : TypeExpr}
    (observed : graph.shown.ElementsObserved (node.mapValues graph.front) element) :
    graph.ElementsObserved node element := by
  constructor
  · intro variant variantMember
    obtain ⟨part, member, inhabited⟩ := observed.elements variant variantMember
    rw [Node.members_mapValues front_leaf] at member
    obtain ⟨inner, innerMember, rfl⟩ := List.mem_map.mp member
    exact ⟨inner, innerMember, heldIn_of_inhabitedBy_shown inhabited⟩
  · intro inner isArray variant variantMember
    obtain ⟨row, member, exhibits⟩ := observed.rows isArray variant variantMember
    rw [Node.members_mapValues front_leaf] at member
    obtain ⟨innerRow, innerMember, rfl⟩ := List.mem_map.mp member
    exact ⟨innerRow, innerMember, exhibits_of_shown exhibits⟩

theorem propertiesObserved_of_shown {objects : List Value} {properties : List (Property TypeExpr)}
    (bare : ∀ object ∈ objects, graph.BareBelow object)
    (observed : graph.shown.PropertiesObserved objects properties) : graph.PropertiesObserved objects properties := by
  intro property member variant variantMember
  obtain ⟨object, objectMember, part, ⟨node, isShown, hasEntry⟩, inhabited⟩ :=
    observed property member variant variantMember
  rw [← (bare object objectMember).front_eq] at isShown
  obtain ⟨address, inner, rfl, -, isNode, rfl⟩ := exists_node_of_shown isShown
  obtain ⟨innerPart, innerEntry, rfl⟩ := hasEntry_shown_iff.mp hasEntry
  exact ⟨_, objectMember, innerPart, ⟨inner, isNode, innerEntry⟩, heldIn_of_inhabitedBy_shown inhabited⟩

/-- A value that is typed as an array shows as the array that it is. -/
theorem exists_array_of_inferred {value : Value} {depth : Int} {array : Node} {element : TypeExpr}
    (isArray : graph.arrayOf? value = some array)
    (inferred : graph.shown.infer settings (graph.front value) depth = .ok (.array element))
    (flagFree : graph.shown.FlagFree (graph.front value)) :
    graph.shown.nodeOf? (graph.front value) = some (array.mapValues graph.front) ∧ array.isObject = false := by
  have typed := Inference.typedByClass_of_answer (Graph.answers_of_infer inferred)
  have isArrayShown := (typed.array.mp ⟨element, rfl⟩).1
  obtain ⟨node, isShown, noObject⟩ := flagFree.exists_node_of_isArray isArrayShown
  obtain ⟨address, inner, rfl, guise, isNode, rfl⟩ := exists_node_of_shown isShown
  rw [Node.isObject_mapValues] at noObject
  cases isArray.symm.trans (arrayAt?_of_guise guise isNode noObject)
  exact ⟨isShown, noObject⟩

/-- No variant of the type of a value without flags and without facets inside arrays is dead.  Each variant of the element
type of an array with members holds one of them; if the members are typed as arrays, each variant inside of that type
holds an element of one of them, or it is the unknown element of an empty one; and each variant of a property of a merged
shape of objects without facets holds a value that one of the objects has under the key. -/
theorem infer_variants_observed (graph : FacetedGraph) (settings : Settings) {depth : Int} (below : 0 ≤ depth) :
    (∀ value array, graph.arrayOf? value = some array → array.members ≠ [] →
      graph.shown.FlagFree (graph.front value) → graph.BareInArrays value →
        (∃ type, graph.infer settings value depth = .ok type ∧
            ∀ element, type = .array element → graph.ElementsObserved array element) ∨
          ∃ fault, graph.infer settings value depth = .error fault ∧
            graph.shown.FailsBelow (graph.front value) fault) ∧
      ∀ opened objects, objects ≠ [] → (∀ object ∈ objects, graph.isObject object = true) →
        (∀ object ∈ objects, graph.shown.FlagFree object) → (∀ object ∈ objects, graph.BareBelow object) →
          (∃ properties, graph.mergeShapes settings objects depth opened = .ok (.objectOf properties depth) ∧
              graph.PropertiesObserved objects properties) ∨
            ∃ fault, graph.mergeShapes settings objects depth opened = .error fault ∧
              graph.shown.MergeFails settings opened depth objects fault := by
  obtain ⟨ofArrays, ofObjects⟩ := graph.shown.infer_variants_live settings below
  constructor
  · intro value array isArray someMembers flagFree bare
    rw [infer_shown settings depth bare]
    obtain ⟨type, inferred⟩ | failed := Graph.infer_cases graph.shown settings (graph.front value) depth
    · refine .inl ⟨type, inferred, ?_⟩
      rintro element rfl
      obtain ⟨isShown, arrayNode⟩ := exists_array_of_inferred isArray inferred flagFree
      have someShown : (array.mapValues graph.front).members ≠ [] := by
        rw [Node.members_mapValues front_leaf]
        simpa using someMembers
      obtain ⟨other, sameInferred, observed⟩ | ⟨fault, failed, -⟩ :=
        ofArrays (graph.front value) _ isShown (by simpa using arrayNode) someShown flagFree
      · cases inferred.symm.trans sameInferred
        exact elementsObserved_of_shown observed
      · cases inferred.symm.trans failed
    · exact .inr failed
  · intro opened objects nonempty areObjects flagFree bare
    rw [mergeShapes_shown settings depth opened bare areObjects]
    have areShown : ∀ object ∈ objects, graph.shown.isObject object = true := by
      intro object member
      rw [isObject_shown]
      exact areObjects object member
    obtain ⟨properties, merged, observed⟩ | failed := ofObjects opened objects nonempty areShown flagFree
    · exact .inl ⟨properties, merged, propertiesObserved_of_shown bare observed⟩
    · exact .inr failed

/-- A list of an empty list and one with two elements, two objects with values under the same key, and a pair that is the
member of an enumeration. -/
def ledger : FacetedGraph where
  nodes :=
    #[.sequence .list [.container 1, .container 2], .sequence .list [],
      .sequence .list [.leaf (.integer 1), .leaf .null],
      .mapping .plain [(.leaf (.text "sum"), .leaf (.integer 1))],
      .mapping .plain [(.leaf (.text "sum"), .leaf (.text "none"))],
      .sequence .tuple [.leaf (.integer 1), .leaf (.integer 2)]]
  facets
    | 5 => { guise := some ⟨.symbol "Pair" "Pair.B" "<Pair.B: (1, 2)>" none false, rfl⟩ }
    | _ => {}

theorem flagFree_ledger (address : Address) : ledger.shown.FlagFree (.container address) := by
  apply Graph.flagFree_of_leaves
  intro holder node kind text literal standsFor mark isShown held
  rw [node?_shown, Option.map_eq_some_iff] at isShown
  obtain ⟨inner, isNode, rfl⟩ := isShown
  have inBounds := Graph.address_lt_size isNode
  change holder < 6 at inBounds
  interval_cases holder <;> cases isNode <;> simp [ledger, Node.mapValues, Node.held, front] at held

/-- Only the pair has facets, and nothing holds it. -/
theorem bareBelow_ledger {address : Address} (noPair : address ≠ 5) : ledger.BareBelow (.container address) := by
  have bare (address : Address) (noPair : address ≠ 5) : ledger.IsBare address := by
    have noFacets : ledger.facets address = {} := by simp only [ledger]
    constructor <;> rw [noFacets]
    nofun
  apply bareBelow_of_inside bare
  · rintro holder node _ - isNode held rfl
    have inBounds := Graph.address_lt_size isNode
    change holder < 6 at inBounds
    interval_cases holder <;> cases isNode <;> simp [ledger, Node.held] at held
  · rintro _ ⟨⟩
    exact noPair

/-- What an element of the lists may be comes from three elements, one of which is missing. -/
theorem infer_variants_observed_ledger :
    (0 : Int) ≤ 0 ∧
      (ledger.arrayOf? (.container 0) = some (.sequence .list [.container 1, .container 2]) ∧
        ledger.shown.FlagFree (.container 0) ∧ ledger.BareInArrays (.container 0) ∧
        ledger.infer {} (.container 0) =
          .ok (.array (.array (.union [.primitive "null", .primitive "number", .primitive "unknown"] 0 false))) ∧
        ∀ variant ∈ [TypeExpr.primitive "null", .primitive "number", .primitive "unknown"],
          ∃ row ∈ [Value.container 1, .container 2], ledger.Exhibits row variant) ∧
      [Value.container 3, .container 4] ≠ [] ∧
      (∀ object ∈ [Value.container 3, .container 4], ledger.isObject object = true) ∧
      (∀ object ∈ [Value.container 3, .container 4], ledger.shown.FlagFree object) ∧
      (∀ object ∈ [Value.container 3, .container 4], ledger.BareBelow object) ∧
      ledger.PropertiesObserved [.container 3, .container 4]
        [⟨"sum", .union [.primitive "number", .primitive "string"] 0 false, false⟩] := by
  have isArray : ledger.arrayOf? (.container 0) = some (.sequence .list [.container 1, .container 2]) := rfl
  have bare : ledger.BareInArrays (.container 0) := (bareBelow_ledger (by decide)).inArrays
  have inferred : ledger.infer {} (.container 0) =
      .ok (.array (.array (.union [.primitive "null", .primitive "number", .primitive "unknown"] 0 false))) := by rfl
  have areObjects : ∀ object ∈ [Value.container 3, .container 4], ledger.isObject object = true := by decide
  have flagFree : ∀ object ∈ [Value.container 3, .container 4], ledger.shown.FlagFree object :=
    List.forall_mem_cons.mpr ⟨flagFree_ledger 3, List.forall_mem_singleton.mpr (flagFree_ledger 4)⟩
  have bareObjects : ∀ object ∈ [Value.container 3, .container 4], ledger.BareBelow object :=
    List.forall_mem_cons.mpr
      ⟨bareBelow_ledger (by decide), List.forall_mem_singleton.mpr (bareBelow_ledger (by decide))⟩
  have merged : ledger.mergeShapes {} [.container 3, .container 4] = .ok
      (.object [⟨"sum", .union [.primitive "number", .primitive "string"] 0 false, false⟩] 0) := by rfl
  obtain ⟨ofArrays, ofObjects⟩ := infer_variants_observed ledger {} (Int.le_refl 0)
  refine ⟨Int.le_refl 0, ⟨isArray, flagFree_ledger 0, bare, inferred, ?_⟩, List.cons_ne_nil _ _, areObjects, flagFree,
    bareObjects, ?_⟩
  · obtain ⟨type, sameInferred, observed⟩ | ⟨fault, failed, -⟩ :=
      ofArrays (.container 0) _ isArray (List.cons_ne_nil _ _) (flagFree_ledger 0) bare
    · cases inferred.symm.trans sameInferred
      exact (observed _ rfl).rows rfl
    · cases inferred.symm.trans failed
  · obtain ⟨properties, sameMerged, observed⟩ | ⟨fault, failed, -⟩ :=
      ofObjects [] [.container 3, .container 4] (List.cons_ne_nil _ _) areObjects flagFree bareObjects
    · have shape := Except.ok.inj (merged.symm.trans sameMerged)
      cases properties with
      | nil => cases shape
      | cons first others =>
          cases shape
          exact observed
    · cases merged.symm.trans failed

/-- A list of a record with the elements of an array and of a list is typed as a list of lists of texts and records, but no
element of the two is a record. -/
theorem infer_leaves_dead_variant_misfits :
    ∃ inner, misfits.infer {} (.container 1) = .ok (.array (.array inner)) ∧
      deckType 1 ∈ ArrayUnion.variants inner ∧
      ¬∃ row ∈ [Value.container 5, .container 6], misfits.Exhibits row (deckType 1) := by
  have inferred : misfits.infer {} (.container 1) =
      .ok (.array (.array (.union [.primitive "string", deckType 1] 0 false))) := by rfl
  refine ⟨_, inferred, by simp [ArrayUnion.variants], ?_⟩
  rintro ⟨row, member, node, isArray, ⟨part, partMember, isObject, -⟩ | ⟨-, isUnknown⟩⟩
  · simp only [List.mem_cons, List.not_mem_nil, or_false] at member
    obtain rfl | rfl := member
    · cases isArray
      cases List.mem_singleton.mp partMember
      cases isObject
    · cases isArray
      cases List.mem_singleton.mp partMember
      cases isObject
  · cases isUnknown

end FacetedGraph

end SampleTypes
