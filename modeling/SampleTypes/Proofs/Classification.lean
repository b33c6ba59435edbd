import SampleTypes.Proofs.Canonical
import SampleTypes.Proofs.Failure

/-!
# Classified values and their types

The elements of an array are classified as arrays and objects without being typed.  This module compares the
classes with the types that the values get: an array gets an array type and an object an object type, unless it
is open, and nothing else does.  Without facets the one exception are members of flag enumerations.  They are
classified as arrays and typed as symbols, so an array of them is typed one level too deep.
-/

namespace SampleTypes

namespace TypeExpr

def IsArray (type : TypeExpr) : Prop :=
  ∃ element, type = .array element

/-- Whether a type is that of an object, with known properties or with arbitrary keys. -/
def IsObject (type : TypeExpr) : Prop :=
  (∃ properties depth, type = .object properties depth) ∨ ∃ value, type = .record value

theorem IsArray.not_isObject {type : TypeExpr} (isArray : type.IsArray) : ¬type.IsObject := by
  obtain ⟨element, rfl⟩ := isArray
  rintro (⟨properties, depth, impossible⟩ | ⟨value, impossible⟩) <;> cases impossible

theorem IsArray.ne_circular {type : TypeExpr} (isArray : type.IsArray) : type ≠ .circular := by
  obtain ⟨element, rfl⟩ := isArray
  exact nofun

theorem IsObject.ne_circular {type : TypeExpr} (isObject : type.IsObject) : type ≠ .circular := by
  rcases isObject with ⟨properties, depth, rfl⟩ | ⟨value, rfl⟩ <;> exact nofun

/-- A type that is none of those that containers have. -/
structure IsPlain (type : TypeExpr) : Prop where
  noArray : ¬type.IsArray
  noObject : ¬type.IsObject
  notCircular : type ≠ .circular

theorem isPlain_primitive (name : String) : (primitive name).IsPlain where
  noArray := nofun
  noObject := nofun
  notCircular := nofun

theorem isPlain_callable : callable.IsPlain where
  noArray := nofun
  noObject := nofun
  notCircular := nofun

end TypeExpr

theorem Leaf.isPlain_type (leaf : Leaf) : leaf.type.IsPlain := by
  cases leaf with
  | function | recordType => exact TypeExpr.isPlain_callable
  | _ => exact TypeExpr.isPlain_primitive _

/-- Whether a value is a member of a flag enumeration. -/
def Value.IsFlag : Value → Prop
  | .leaf (.symbol _ _ _ _ isFlag _) => isFlag = true
  | _ => False

theorem Value.not_isFlag_container (address : Address) : ¬(Value.container address).IsFlag :=
  id

theorem Value.IsFlag.exists_leaf {value : Value} (isFlag : value.IsFlag) :
    ∃ leaf, value = .leaf leaf ∧ leaf.type = .primitive "symbol" := by
  cases value with
  | leaf leaf =>
      cases leaf with
      | symbol => exact ⟨_, rfl, rfl⟩
      | _ => cases isFlag
  | container address => cases isFlag

namespace Graph

variable {graph : Graph}

/-- Of the leaves only the members of flag enumerations are classified as arrays. -/
theorem isArray_leaf_iff {leaf : Leaf} : graph.isArray (.leaf leaf) = true ↔ (Value.leaf leaf).IsFlag := by
  cases leaf with
  | symbol => rfl
  | _ => exact ⟨nofun, nofun⟩

theorem isArray_container {address : Address} {node : Node} (isNode : graph.node? address = some node) :
    graph.isArray (.container address) = !node.isObject := by
  simp only [isArray, isNode]

theorem isObject_container {address : Address} {node : Node} (isNode : graph.node? address = some node) :
    graph.isObject (.container address) = node.isObject := by
  simp only [isObject, nodeOf?_container isNode]

theorem not_isObject_of_isArray {value : Value} (isArray : graph.isArray value = true) :
    graph.isObject value = false := by
  cases value with
  | leaf leaf => rfl
  | container address =>
      cases isNode : graph.node? address with
      | none => simp only [Graph.isObject, nodeOf?, isNode]
      | some node => simpa [isArray_container isNode, isObject_container isNode] using isArray

/-- How the type of a value answers to the class of the value when some containers are open. -/
structure TypedByClass (graph : Graph) (opened : List Address) (value : Value) (type : TypeExpr) : Prop where
  array : type.IsArray ↔ graph.isArray value = true ∧ value.isOpen opened = false ∧ ¬value.IsFlag
  object : type.IsObject ↔ graph.isObject value = true ∧ value.isOpen opened = false
  circular : type = .circular ↔
    (graph.isArray value = true ∨ graph.isObject value = true) ∧ value.isOpen opened = true
  flag (isFlag : value.IsFlag) : type = .primitive "symbol"

namespace TypedByClass

variable {opened : List Address} {type : TypeExpr} {address : Address} {node : Node}

theorem ofLeaf (leaf : Leaf) : graph.TypedByClass opened (.leaf leaf) leaf.type where
  array := by
    refine ⟨fun isArray => absurd isArray leaf.isPlain_type.noArray, ?_⟩
    rintro ⟨isArray, -, noFlag⟩
    exact absurd (isArray_leaf_iff.mp isArray) noFlag
  object := ⟨fun isObject => absurd isObject leaf.isPlain_type.noObject, nofun⟩
  circular := ⟨fun circular => absurd circular leaf.isPlain_type.notCircular, nofun⟩
  flag isFlag := by
    obtain ⟨other, same, isSymbol⟩ := isFlag.exists_leaf
    cases same
    exact isSymbol

theorem ofMissing (isMissing : graph.node? address = none) :
    graph.TypedByClass opened (.container address) .unknown := by
  have noArray : graph.isArray (.container address) = false := by
    simp only [Graph.isArray, isMissing]
  have noObject : graph.isObject (.container address) = false := by
    simp only [Graph.isObject, nodeOf?, isMissing]
  have plain := TypeExpr.isPlain_primitive "unknown"
  constructor
  · exact ⟨fun isArray => absurd isArray plain.noArray, by simp [noArray]⟩
  · exact ⟨fun isObject => absurd isObject plain.noObject, by simp [noObject]⟩
  · exact ⟨fun circular => absurd circular plain.notCircular, by simp [noArray, noObject]⟩
  · exact fun isFlag => absurd isFlag (Value.not_isFlag_container address)

theorem ofOpen (isNode : graph.node? address = some node) (isOpen : address ∈ opened) :
    graph.TypedByClass opened (.container address) .circular := by
  have opens : (Value.container address).isOpen opened = true := by
    simpa [Value.isOpen] using isOpen
  have isContainer : graph.isArray (.container address) = true ∨ graph.isObject (.container address) = true := by
    rw [isArray_container isNode, isObject_container isNode]
    cases node.isObject <;> simp
  constructor
  · exact ⟨fun isArray => absurd rfl isArray.ne_circular, by simp [opens]⟩
  · exact ⟨fun isObject => absurd rfl isObject.ne_circular, by simp [opens]⟩
  · exact ⟨fun _ => ⟨isContainer, opens⟩, fun _ => rfl⟩
  · exact fun isFlag => absurd isFlag (Value.not_isFlag_container address)

theorem ofArray (isNode : graph.node? address = some node) (fresh : address ∉ opened)
    (isArray : node.isObject = false) (arrayType : type.IsArray) :
    graph.TypedByClass opened (.container address) type := by
  have notOpen := Value.isOpen_container_eq_false_iff.mpr fresh
  have arrayClass : graph.isArray (.container address) = true := by
    rw [isArray_container isNode, isArray]
    rfl
  have noObject : graph.isObject (.container address) = false := by
    rw [isObject_container isNode, isArray]
  constructor
  · exact ⟨fun _ => ⟨arrayClass, notOpen, Value.not_isFlag_container address⟩, fun _ => arrayType⟩
  · exact ⟨fun isObject => absurd isObject arrayType.not_isObject, by simp [noObject]⟩
  · exact ⟨fun circular => absurd circular arrayType.ne_circular, by simp [notOpen]⟩
  · exact fun isFlag => absurd isFlag (Value.not_isFlag_container address)

theorem ofObject (isNode : graph.node? address = some node) (fresh : address ∉ opened)
    (isObject : node.isObject = true) (objectType : type.IsObject) :
    graph.TypedByClass opened (.container address) type := by
  have notOpen := Value.isOpen_container_eq_false_iff.mpr fresh
  have objectClass : graph.isObject (.container address) = true := by
    rw [isObject_container isNode, isObject]
  have noArray : graph.isArray (.container address) = false := by
    rw [isArray_container isNode, isObject]
    rfl
  constructor
  · exact ⟨fun isArray => absurd objectType isArray.not_isObject, by simp [noArray]⟩
  · exact ⟨fun _ => ⟨objectClass, notOpen⟩, fun _ => objectType⟩
  · exact ⟨fun circular => absurd circular objectType.ne_circular, by simp [notOpen]⟩
  · exact fun isFlag => absurd isFlag (Value.not_isFlag_container address)

end TypedByClass

end Graph

section Step

variable {graph : Graph} {settings : Settings} {typed : Assignment}

theorem Merge.Builds.isObject {opened : List Address} {depth : Int} {objects : List Value} {type : TypeExpr}
    (built : Merge.Builds graph settings typed opened depth objects type) : type.IsObject := by
  cases built with
  | nothing | noKeys => exact .inr ⟨_, rfl⟩
  | properties => exact .inl ⟨_, _, rfl⟩

/-- What a step makes of a value answers to the class of the value, whatever it makes of the parts. -/
theorem Inference.Builds.typedByClass {call : Call} {type : TypeExpr}
    (built : Inference.Builds graph settings typed call type) :
    graph.TypedByClass call.opened call.value type := by
  cases built with
  | leaf merging opened depth leaf => exact .ofLeaf leaf
  | missing isMissing => exact .ofMissing isMissing
  | circular isNode isOpen => exact .ofOpen isNode isOpen
  | object isNode fresh isObject =>
      apply Graph.TypedByClass.ofObject isNode fresh isObject
      split
      · exact .inr ⟨_, rfl⟩
      · exact .inl ⟨_, _, rfl⟩
  | mergedObject isNode fresh isObject built => exact .ofObject isNode fresh isObject built.isObject
  | emptyArray isNode fresh isArray => exact .ofArray isNode fresh isArray ⟨_, rfl⟩
  | array isNode fresh isArray _ _ built => exact .ofArray isNode fresh isArray built.exists_element
  | mergedArray isNode fresh isMerged =>
      obtain ⟨isArray, -, -⟩ := fresh_of_isMergedArray isNode isMerged
      exact .ofArray isNode fresh isArray ⟨_, rfl⟩

end Step

theorem Inference.typedByClass_of_answer {graph : Graph} {settings : Settings} {budget : Nat} {call : Call}
    {type : TypeExpr} (answer : (typer graph settings budget).Answers call type) :
    graph.TypedByClass call.opened call.value type :=
  answer_induction (fun call type => graph.TypedByClass call.opened call.value type)
    (fun _ _ _ built => built.typedByClass) budget answer

/-- Objects that are not open are classified as such. -/
theorem ArrayKind.ofElements_eq_objects {graph : Graph} {opened : List Address} {elements : List Value}
    (nonempty : elements ≠ [])
    (objects : ∀ element ∈ elements, graph.isObject element = true ∧ element.isOpen opened = false) :
    ofElements graph opened elements = .objects := by
  obtain ⟨first, others, rfl⟩ := List.exists_cons_of_ne_nil nonempty
  unfold ofElements
  split
  · rename_i allArrays
    have isArray := List.all_eq_true.mp allArrays first List.mem_cons_self
    have notObject := Graph.not_isObject_of_isArray isArray
    rw [(objects first List.mem_cons_self).1] at notObject
    cases notObject
  · split
    · rfl
    · rename_i notAll
      refine absurd (List.all_eq_true.mpr ?_) notAll
      intro element member
      obtain ⟨isObject, notOpen⟩ := objects element member
      rw [isObject, notOpen]
      rfl

namespace TypeExpr

variable {settings : Settings} {types variants : List TypeExpr} {type : TypeExpr}

/-- Of equal types there is one variant. -/
theorem Represents.eq_singleton (represents : Represents settings variants types) (nonempty : types ≠ [])
    (differ : variants.Pairwise fun earlier later => earlier.render settings ≠ later.render settings)
    (same : ∀ other ∈ types, other = type) : variants = [type] := by
  have sameVariants : ∀ variant ∈ variants, variant = type :=
    fun variant member => same variant (represents.mem_of_mem variant member)
  match variants, represents.ne_nil nonempty, sameVariants, differ with
  | [variant], _, sameVariants, _ => rw [sameVariants variant List.mem_cons_self]
  | first :: second :: others, _, sameVariants, differ =>
      have sameFirst := sameVariants first List.mem_cons_self
      have sameSecond := sameVariants second (List.mem_cons_of_mem _ List.mem_cons_self)
      have differSecond := (List.pairwise_cons.mp differ).1 second List.mem_cons_self
      rw [sameFirst, sameSecond] at differSecond
      exact absurd rfl differSecond

/-- Equal types have one sorted variant. -/
theorem sortedUnion_eq_of_same (nonempty : types ≠ []) (same : ∀ other ∈ types, other = type) :
    sortedUnion settings types = type := by
  have differ := (pairwise_sortedByText settings types).imp fun less => ne_of_lt less
  rw [sortedUnion_eq, (represents_sortedByText settings types).eq_singleton nonempty differ same]
  rfl

theorem distinctByText_eq_of_same (nonempty : types ≠ []) (same : ∀ other ∈ types, other = type) :
    distinctByText settings types = [type] :=
  (represents_distinctByText settings types).eq_singleton nonempty (pairwise_distinctByText settings types) same

end TypeExpr

namespace ArrayUnion

variable {graph : Graph} {settings : Settings} {typer : Typer} {opened : List Address} {elements : List Value}
  {name : String}

theorem arrayOfArrays_eq_of_same {types : List TypeExpr} (nonempty : types ≠ [])
    (same : ∀ type ∈ types, type = .primitive name) :
    arrayOfArrays settings types = .array (.array (.primitive name)) := by
  have unwrapped : types.flatMap TypeExpr.unwrapArray = types := by
    calc
      types.flatMap TypeExpr.unwrapArray = types.flatMap fun type => [type] := by
        apply List.flatMap_congr
        intro type member
        rw [same type member]
        rfl
      _ = types := List.flatMap_singleton' types
  rw [arrayOfArrays, unwrapped, TypeExpr.sortedUnion_eq_of_same nonempty same]

/-- Elements that pass for arrays and share a type with a name are typed as an array of arrays of that type. -/
theorem ofArrays_eq_of_same (nonempty : elements ≠ [])
    (same : ∀ depth, ∀ element ∈ elements, typer.infer opened depth element = .ok (.primitive name))
    (depth : Int) :
    ofArrays settings typer opened depth elements = .ok (.array (.array (.primitive name))) := by
  have inferred : elements.mapM (typer.infer opened (depth + 1)) =
      .ok (elements.map fun _ => .primitive name) := by
    rw [Outcome.mapM_eq_ok_iff, List.forall₂_map_right_iff, List.forall₂_same]
    exact same (depth + 1)
  have someTypes : elements.map (fun _ => TypeExpr.primitive name) ≠ [] := by
    simpa using nonempty
  have sameTypes : ∀ type ∈ elements.map (fun _ => TypeExpr.primitive name), type = .primitive name := by
    simp
  unfold ofArrays
  cases settings.mode with
  | merge =>
      rw [inferred]
      exact congrArg Except.ok (arrayOfArrays_eq_of_same someTypes sameTypes)
  | union =>
      obtain ⟨first, others, rfl⟩ := List.exists_cons_of_ne_nil nonempty
      have shapes : distinctShapes settings typer opened depth (first :: others) = .ok (.primitive name) := by
        refine Outcome.bind_eq_ok_iff.mpr ⟨_, inferred, ?_⟩
        rw [TypeExpr.distinctByText_eq_of_same someTypes sameTypes]
        exact same depth first List.mem_cons_self
      dsimp only
      rw [shapes]
      refine congrArg Except.ok (arrayOfArrays_eq_of_same (List.cons_ne_nil _ _) ?_)
      intro type member
      exact List.mem_singleton.mp member

end ArrayUnion

end SampleTypes
