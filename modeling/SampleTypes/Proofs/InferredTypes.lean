import SampleTypes.Proofs.Building
import SampleTypes.Proofs.Entries
import SampleTypes.Proofs.Regular

/-!
# The form of inferred types

Every inferred type is regular and no union.  An array is typed as an array, an object as an object, unless it
is open further up.
-/

namespace SampleTypes

/-- Whether a type may stand for a value by itself: it is regular and no union. -/
def TypeExpr.Single (type : TypeExpr) : Prop :=
  type.isUnion = false ∧ type.Regular

namespace TypeExpr

variable {settings : Settings} {types : List TypeExpr}

theorem regularMembers_of_single (single : ∀ type ∈ types, type.Single) : RegularMembers types :=
  regularMembers_iff.mpr single

/-- The union of single types is regular. -/
theorem regular_unionOf (nonempty : types ≠ []) (single : ∀ type ∈ types, type.Single) (depth : Int)
    (multiline : Bool) : (unionOf types depth multiline).Regular := by
  rcases unionOf_cases types depth multiline with ⟨member, rfl, same⟩ | ⟨several, same⟩
  · rw [same]
    exact (single member List.mem_cons_self).2
  · rw [same]
    refine ⟨?_, regularMembers_of_single single⟩
    have positive := List.length_pos_of_ne_nil nonempty
    omega

theorem Represents.single {variants : List TypeExpr} (represents : Represents settings variants types)
    (single : ∀ type ∈ types, type.Single) : ∀ type ∈ variants, type.Single :=
  fun type member => single type (represents.mem_of_mem type member)

theorem regular_sortedUnion (nonempty : types ≠ []) (single : ∀ type ∈ types, type.Single) :
    (sortedUnion settings types).Regular := by
  have represents := represents_sortedByText settings types
  rw [sortedUnion_eq]
  exact regular_unionOf (represents.ne_nil nonempty) (represents.single single) 0 false

theorem regular_unionOf_distinctByText (nonempty : types ≠ []) (single : ∀ type ∈ types, type.Single) :
    (unionOf (distinctByText settings types)).Regular := by
  have represents := represents_distinctByText settings types
  exact regular_unionOf (represents.ne_nil nonempty) (represents.single single) 0 false

/-- Taking one level of array off a single type leaves single types. -/
theorem Single.unwrapArray {type : TypeExpr} (single : type.Single) :
    type.unwrapArray ≠ [] ∧ ∀ part ∈ type.unwrapArray, part.Single := by
  unfold TypeExpr.unwrapArray
  split
  · rename_i members depth multiline
    obtain ⟨several, membersSingle⟩ := single.2
    exact ⟨List.ne_nil_of_length_pos (by omega), regularMembers_iff.mp membersSingle⟩
  · rename_i element noUnion
    refine ⟨List.cons_ne_nil _ _, ?_⟩
    intro part member
    rw [List.mem_singleton.mp member]
    refine ⟨?_, single.2⟩
    cases element with
    | union members depth multiline => exact absurd rfl (noUnion members depth multiline)
    | _ => rfl
  · refine ⟨List.cons_ne_nil _ _, ?_⟩
    intro part member
    rw [List.mem_singleton.mp member]
    exact single

theorem single_flatMap_unwrapArray (single : ∀ type ∈ types, type.Single) :
    ∀ part ∈ types.flatMap unwrapArray, part.Single := by
  intro part member
  obtain ⟨type, typeMember, partMember⟩ := List.mem_flatMap.mp member
  exact (single type typeMember).unwrapArray.2 part partMember

theorem unwrapArray_array (element : TypeExpr) : (array element).unwrapArray = ArrayUnion.variants element := by
  cases element <;> rfl

theorem variants_eq_singleton {type : TypeExpr} (noUnion : type.isUnion = false) :
    ArrayUnion.variants type = [type] := by
  cases type with
  | union members depth multiline => cases noUnion
  | _ => rfl

theorem variants_unionOf {members : List TypeExpr} (noUnions : ∀ member ∈ members, member.isUnion = false)
    (depth : Int) (multiline : Bool) :
    ArrayUnion.variants (unionOf members depth multiline) = members := by
  rcases unionOf_cases members depth multiline with ⟨member, rfl, same⟩ | ⟨-, same⟩
  · rw [same, variants_eq_singleton (noUnions member List.mem_cons_self)]
  · rw [same]
    rfl

theorem variants_sortedUnion (single : ∀ type ∈ types, type.Single) :
    ArrayUnion.variants (sortedUnion settings types) = sortedByText settings types := by
  have represents := represents_sortedByText settings types
  exact variants_unionOf (fun type member => (represents.single single type member).1) 0 false

theorem single_array {element : TypeExpr} (regular : element.Regular) : (array element).Single :=
  ⟨rfl, regular⟩

theorem single_primitive {name : String} (known : name ∈ primitiveNames) : (primitive name).Single :=
  ⟨rfl, known⟩

theorem single_unknown : unknown.Single :=
  single_primitive (by simp [primitiveNames])

theorem single_never : never.Single :=
  single_primitive (by simp [primitiveNames])

theorem single_emptyObject : emptyObject.Single :=
  ⟨rfl, single_never.2⟩

end TypeExpr

namespace Merge

variable {graph : Graph} {settings : Settings} {typed : Assignment} {opened : List Address} {depth : Int}
  {objects : List Value} {described : List Described}

theorem mem_keys_iff {key : String} :
    key ∈ keys described ↔ ∃ description ∈ described, key ∈ description.entries.map (·.1) := by
  rw [keys, TextIndex.mem_texts_iff, List.mem_flatMap]

theorem mem_contributors_iff {key : String} {object part : Value} :
    (object, part) ∈ contributors described key ↔
      ∃ description ∈ described, description.object = object ∧ part ∈ description.valuesUnder key := by
  simp [contributors, Prod.ext_iff]
  tauto

/-- What objects contribute under a key is what is filed under it in their entries. -/
theorem mem_contributors_iff_filed (describing : describe graph objects = .ok described) {key : String}
    {object part : Value} :
    (object, part) ∈ contributors described key ↔
      object ∈ objects ∧ ∃ entries, graph.entries object = .ok entries ∧ Filed entries key part := by
  have pairs := forall₂_of_describe describing
  rw [mem_contributors_iff]
  constructor
  · rintro ⟨description, member, rfl, partMember⟩
    obtain ⟨object, objectMember, rfl, listing⟩ := pairs.exists_left member
    exact ⟨objectMember, description.entries, listing, filed_of_mem_valuesUnder partMember⟩
  · rintro ⟨objectMember, entries, listing, filed⟩
    obtain ⟨description, member, rfl, sameListing⟩ := pairs.exists_right objectMember
    cases listing.symm.trans sameListing
    exact ⟨description, member, rfl,
      (Described.mem_valuesUnder_iff (Graph.grouped_of_entries sameListing)).mpr filed⟩

theorem contributors_ne_nil (describing : describe graph objects = .ok described) {key : String}
    (known : key ∈ keys described) : contributors described key ≠ [] := by
  obtain ⟨description, member, keyMember⟩ := mem_keys_iff.mp known
  obtain ⟨object, -, rfl, listing⟩ := (forall₂_of_describe describing).exists_left member
  have grouped := Graph.grouped_of_entries listing
  obtain ⟨part, filed⟩ := grouped.exists_filed keyMember
  exact List.ne_nil_of_mem
    (mem_contributors_iff.mpr ⟨description, member, rfl,
      (Described.mem_valuesUnder_iff grouped).mpr filed⟩)

end Merge

/-- A property that each item gives its type holds of every type. -/
theorem each_of_forall₂ {α : Type} {good : TypeExpr → Prop} {related : α → TypeExpr → Prop}
    {items : List α} {types : List TypeExpr} (pairs : List.Forall₂ related items types)
    (each : ∀ item type, related item type → good type) : ∀ type ∈ types, good type := by
  intro type member
  obtain ⟨item, -, relatedItem⟩ := pairs.exists_left member
  exact each item type relatedItem

theorem ne_nil_of_forall₂ {α β : Type} {related : α → β → Prop} {items : List α} {results : List β}
    (pairs : List.Forall₂ related items results) (nonempty : items ≠ []) : results ≠ [] := by
  cases pairs with
  | nil => exact absurd rfl nonempty
  | cons _ _ => exact List.cons_ne_nil _ _

/-- An array that holds as a condition has elements. -/
theorem Node.members_ne_nil_of_isTrue (node : Node) (isTrue : node.isTrue = true) :
    node.members ≠ [] := by
  unfold Node.isTrue at isTrue
  split at isTrue
  · cases isTrue
  · rename_i progression
    simpa [Node.members, Progression.members] using isTrue
  · simpa using isTrue

/-- A merged array has elements, all of them objects that are not open. -/
theorem Inference.fresh_of_isMergedArray {graph : Graph} {opened : List Address} {address : Address}
    {node : Node}
    (isNode : graph.node? address = some node) (isMerged : isMergedArray graph opened node = true) :
    node.isObject = false ∧ node.members ≠ [] ∧
      ∀ element ∈ node.members, graph.isObject element = true ∧
        element.isOpen (address :: opened) = false := by
  simp only [isMergedArray, Bool.and_eq_true, Bool.not_eq_true', List.all_eq_true] at isMerged
  obtain ⟨⟨isArray, isTrue⟩, allObjects⟩ := isMerged
  refine ⟨isArray, node.members_ne_nil_of_isTrue isTrue, ?_⟩
  intro element member
  obtain ⟨isObject, notOpen⟩ := allObjects element member
  refine ⟨isObject, ?_⟩
  obtain ⟨objectAddress, objectNode, rfl, isObjectNode, nodeIsObject⟩ :=
    Graph.isObject_eq_true_iff.mp isObject
  rw [Value.isOpen_container_eq_false_iff] at notOpen ⊢
  intro opens
  rcases List.mem_cons.mp opens with rfl | earlier
  · cases isNode.symm.trans isObjectNode
    rw [isArray] at nodeIsObject
    cases nodeIsObject
  · exact notOpen earlier

theorem ArrayKind.ofElements_eq_arrays_iff {graph : Graph} {opened : List Address} {elements : List Value} :
    ofElements graph opened elements = .arrays ↔ ∀ element ∈ elements, graph.isArray element = true := by
  rw [← List.all_eq_true]
  unfold ofElements
  split
  · rename_i allArrays
    exact ⟨fun _ => allArrays, fun _ => rfl⟩
  · rename_i notAll
    constructor
    · intro arrays
      split at arrays <;> cases arrays
    · intro allArrays
      exact absurd allArrays notAll

theorem ArrayKind.fresh_of_ofElements {graph : Graph} {opened : List Address} {elements : List Value}
    (objects : ArrayKind.ofElements graph opened elements = .objects) :
    ∀ element ∈ elements, graph.isObject element = true ∧ element.isOpen opened = false := by
  unfold ArrayKind.ofElements at objects
  split at objects
  · cases objects
  · split at objects
    · rename_i allObjects
      intro element member
      have isFresh := List.all_eq_true.mp allObjects element member
      rw [Bool.and_eq_true, Bool.not_eq_true'] at isFresh
      exact isFresh
    · cases objects

/-- The type of an array with elements is an array. -/
theorem ArrayUnion.Builds.exists_element {graph : Graph} {settings : Settings} {typed : Assignment}
    {opened : List Address} {depth : Int} {elements : List Value} {kind : ArrayKind} {type : TypeExpr}
    (built : Builds graph settings typed opened depth elements kind type) :
    ∃ element, type = .array element := by
  cases built with
  | arrays | arrayShapes | flatArrayShapes | objects | objectShapes | mixed => exact ⟨_, rfl⟩

namespace Inference

section Cases

variable {graph : Graph} {settings : Settings} {typed : Assignment} {merging : Bool} {opened : List Address}
  {depth : Int} {address : Address} {node : Node} {type : TypeExpr}

/-- An object that is not open is typed by itself or merged. -/
theorem Builds.object_cases (isNode : graph.node? address = some node) (fresh : address ∉ opened)
    (isObject : node.isObject = true)
    (built : Builds graph settings typed ⟨merging, opened, depth, .container address⟩ type) :
    (∃ entries properties, graph.entriesOfNode node = .ok entries ∧
        List.Forall₂ (BuildsProperty settings typed (address :: opened) depth) entries properties ∧
        type = if properties.isEmpty then .emptyObject else .object properties depth) ∨
      Merge.Builds graph settings typed opened depth [.container address] type := by
  cases built with
  | missing isMissing => cases isNode.symm.trans isMissing
  | circular _ isOpen => exact absurd isOpen fresh
  | object sameNode _ _ listing built =>
      cases isNode.symm.trans sameNode
      exact .inl ⟨_, _, listing, built, rfl⟩
  | mergedObject _ _ _ built => exact .inr built
  | emptyArray sameNode _ isArray | array sameNode _ isArray =>
      cases isNode.symm.trans sameNode
      cases isObject.symm.trans isArray
  | mergedArray sameNode _ isMerged =>
      cases isNode.symm.trans sameNode
      cases isObject.symm.trans (fresh_of_isMergedArray isNode isMerged).1

/-- An array that is not open is typed by its elements, or it is an array of objects and they are merged. -/
theorem Builds.array_cases (isNode : graph.node? address = some node) (fresh : address ∉ opened)
    (isArray : node.isObject = false)
    (built : Builds graph settings typed ⟨merging, opened, depth, .container address⟩ type) :
    (graph.elements node = .ok [] ∧ type = .emptyArray) ∨
      (∃ elements, graph.elements node = .ok elements ∧ elements ≠ [] ∧
        ArrayUnion.Builds graph settings typed (address :: opened) depth elements
          (.ofElements graph (address :: opened) elements) type) ∨
      ∃ shape, isMergedArray graph opened node = true ∧ type = .array shape ∧
        Merge.Builds graph settings typed (address :: opened) depth node.members shape := by
  cases built with
  | missing isMissing => cases isNode.symm.trans isMissing
  | circular _ isOpen => exact absurd isOpen fresh
  | object sameNode _ isObject | mergedObject sameNode _ isObject =>
      cases isNode.symm.trans sameNode
      cases isArray.symm.trans isObject
  | emptyArray sameNode _ _ listing =>
      cases isNode.symm.trans sameNode
      exact .inl ⟨listing, rfl⟩
  | array sameNode _ _ listing nonempty built =>
      cases isNode.symm.trans sameNode
      exact .inr (.inl ⟨_, listing, nonempty, built⟩)
  | mergedArray sameNode _ isMerged built =>
      cases isNode.symm.trans sameNode
      exact .inr (.inr ⟨_, isMerged, rfl, built⟩)

end Cases

end Inference

section Closed

variable {graph : Graph} {settings : Settings} {typed : Assignment} {opened : List Address} {depth : Int}

theorem Merge.Builds.single (single : ∀ call type, typed call type → type.Single) {objects : List Value}
    {type : TypeExpr} (built : Merge.Builds graph settings typed opened depth objects type) :
    type.Single := by
  cases built with
  | nothing => exact ⟨rfl, TypeExpr.single_unknown.2⟩
  | noKeys => exact TypeExpr.single_emptyObject
  | @properties _ described properties nonempty describing someKeys built =>
      refine ⟨rfl, ne_nil_of_forall₂ built someKeys, TypeExpr.regularProperties_iff.mpr ?_⟩
      intro property member
      obtain ⟨key, known, types, contributed, rfl⟩ := built.exists_left member
      exact TypeExpr.regular_sortedUnion
        (ne_nil_of_forall₂ contributed (contributors_ne_nil describing known))
        (each_of_forall₂ contributed fun _ _ => single _ _)

/-- Every variant of the types of some elements is a type that one of the elements is assigned. -/
theorem ArrayUnion.BuildsShapes.exists_element (single : ∀ call type, typed call type → type.Single)
    {elements : List Value} {shapes : TypeExpr}
    (built : ArrayUnion.BuildsShapes settings typed opened depth elements shapes) :
    ∀ variant ∈ variants shapes, ∃ element ∈ elements, ∃ variantDepth, depth ≤ variantDepth ∧
      typed ⟨false, opened, variantDepth, element⟩ variant := by
  intro variant member
  cases built with
  | @one first others types shape _ elementTypes agree again =>
      rw [TypeExpr.variants_eq_singleton (single _ _ again).1, List.mem_singleton] at member
      rw [member]
      exact ⟨first, List.mem_cons_self, depth, Int.le_refl depth, again⟩
  | @several _ types elementTypes differ =>
      have isType := (TypeExpr.represents_distinctByText settings types).mem_of_mem variant member
      obtain ⟨element, elementMember, assigned⟩ := elementTypes.exists_left isType
      exact ⟨element, elementMember, depth + 1, by omega, assigned⟩

theorem ArrayUnion.BuildsShapes.variants_single (single : ∀ call type, typed call type → type.Single)
    {elements : List Value} {type : TypeExpr} (nonempty : elements ≠ [])
    (built : ArrayUnion.BuildsShapes settings typed opened depth elements type) :
    variants type ≠ [] ∧ ∀ variant ∈ variants type, variant.Single := by
  constructor
  · cases built with
    | one elementTypes agree again =>
        rw [TypeExpr.variants_eq_singleton (single _ _ again).1]
        exact List.cons_ne_nil _ _
    | several elementTypes differ =>
        exact (TypeExpr.represents_distinctByText settings _).ne_nil
          (ne_nil_of_forall₂ elementTypes nonempty)
  · intro variant member
    obtain ⟨element, -, variantDepth, -, assigned⟩ := built.exists_element single variant member
    exact single _ _ assigned

theorem ArrayUnion.BuildsShapes.regular (single : ∀ call type, typed call type → type.Single)
    {elements : List Value} {type : TypeExpr} (nonempty : elements ≠ [])
    (built : ArrayUnion.BuildsShapes settings typed opened depth elements type) : type.Regular := by
  have parts := built.variants_single single nonempty
  cases built with
  | one elementTypes agree again => exact (single _ _ again).2
  | several elementTypes differ =>
      have positive := List.length_pos_of_ne_nil parts.1
      exact ⟨by simp only [variants] at positive; omega,
        TypeExpr.regularMembers_of_single parts.2⟩

/-- One level of array is taken off single types and put back twice. -/
theorem ArrayUnion.single_arrayOfArrays {types : List TypeExpr} (nonempty : types ≠ [])
    (single : ∀ type ∈ types, type.Single) : (arrayOfArrays settings types).Single := by
  obtain ⟨first, others, rfl⟩ := List.exists_cons_of_ne_nil nonempty
  apply TypeExpr.single_array
  apply TypeExpr.regular_sortedUnion
  · have unwrapped := (single first List.mem_cons_self).unwrapArray.1
    rw [List.flatMap_cons]
    exact List.append_ne_nil_of_left_ne_nil unwrapped _
  · exact TypeExpr.single_flatMap_unwrapArray single

theorem ArrayUnion.Builds.single (single : ∀ call type, typed call type → type.Single)
    {elements : List Value} {kind : ArrayKind} {type : TypeExpr} (nonempty : elements ≠ [])
    (built : ArrayUnion.Builds graph settings typed opened depth elements kind type) : type.Single := by
  cases built with
  | arrays merging elementTypes =>
      exact single_arrayOfArrays (ne_nil_of_forall₂ elementTypes nonempty)
        (each_of_forall₂ elementTypes fun _ _ => single _ _)
  | arrayShapes uniting built spansLines => exact TypeExpr.single_array (built.regular single nonempty)
  | flatArrayShapes uniting built oneLine =>
      have parts := built.variants_single single nonempty
      exact single_arrayOfArrays parts.1 parts.2
  | objects merging built => exact TypeExpr.single_array (built.single single).2
  | objectShapes uniting built => exact TypeExpr.single_array (built.regular single nonempty)
  | mixed elementTypes =>
      exact TypeExpr.single_array (TypeExpr.regular_unionOf_distinctByText
        (ne_nil_of_forall₂ elementTypes nonempty) (each_of_forall₂ elementTypes fun _ _ => single _ _))

theorem Leaf.single_type (leaf : Leaf) : leaf.type.Single := by
  cases leaf with
  | integer value kind =>
      rw [Leaf.type]
      split
      · exact TypeExpr.single_primitive (by simp [TypeExpr.primitiveNames])
      · exact TypeExpr.single_primitive (by simp [TypeExpr.primitiveNames])
  | function | recordType => exact ⟨rfl, trivial⟩
  | bytes | buffer | other => exact TypeExpr.single_unknown
  | _ => exact TypeExpr.single_primitive (by simp [TypeExpr.primitiveNames])

/-- A step makes single types of single types. -/
theorem Inference.Builds.single (single : ∀ call type, typed call type → type.Single) {call : Call}
    {type : TypeExpr} (built : Inference.Builds graph settings typed call type) : type.Single := by
  cases built with
  | leaf merging opened depth leaf => exact leaf.single_type
  | missing isMissing => exact TypeExpr.single_unknown
  | circular isNode isOpen => exact ⟨rfl, trivial⟩
  | @object _ _ _ _ entries properties isNode fresh isObject listing built =>
      split
      · exact TypeExpr.single_emptyObject
      · rename_i nonempty
        refine ⟨rfl, by simpa using nonempty, TypeExpr.regularProperties_iff.mpr ?_⟩
        intro property member
        obtain ⟨entry, entryMember, types, partTypes, rfl⟩ := built.exists_left member
        have someParts := (Graph.grouped_of_entriesOfNode listing).nonempty entry entryMember
        exact TypeExpr.regular_unionOf_distinctByText (ne_nil_of_forall₂ partTypes someParts)
          (each_of_forall₂ partTypes fun _ _ => single _ _)
  | mergedObject isNode fresh isObject built => exact built.single single
  | emptyArray isNode fresh isArray listing => exact TypeExpr.single_array TypeExpr.single_unknown.2
  | array isNode fresh isArray listing nonempty built => exact built.single single nonempty
  | mergedArray isNode fresh isMerged built => exact TypeExpr.single_array (built.single single).2

end Closed

/-- Every answer is regular and no union. -/
theorem Inference.single_of_answer {graph : Graph} {settings : Settings} {budget : Nat} {call : Call}
    {type : TypeExpr} (answer : (typer graph settings budget).Answers call type) : type.Single :=
  answer_induction (fun _ type => type.Single)
    (fun _ _ _ built => built.single fun _ _ part => part.2) budget answer

theorem Graph.regular_of_infer {graph : Graph} {settings : Settings} {value : Value} {depth : Int}
    {type : TypeExpr} (inferred : graph.infer settings value depth = .ok type) : type.Regular :=
  (Inference.single_of_answer (answers_of_infer inferred)).2

end SampleTypes
