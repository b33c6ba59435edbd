import SampleTypes.Proofs.Classification
import SampleTypes.Proofs.FacetedFailure

/-!
# Values of several classes and their types

A value by itself is asked for its classes in one order: a leaf before an object, and an object before an array.  The
elements of an array are asked whether they are arrays before anything else.  The two agree on a value exactly if it is
of one class.  A member of a flag enumeration and a container that is a leaf in the first place are of two, and so is an
object that is an array as well; a list of them is typed one level too deep.
-/

namespace SampleTypes

namespace FacetedGraph

/-- How the type of a value is told by what the value shows and by its classes, when some containers are open. -/
structure TypedAsShown (graph : FacetedGraph) (opened : List Address) (value : Value) (type : TypeExpr) : Prop where
  leaf {leaf : Leaf} (shows : graph.front value = .leaf leaf) : type = leaf.type
  circular : type = .circular ↔ (∃ address, graph.front value = .container address) ∧
    (graph.isArray value = true ∨ graph.isObject value = true) ∧ value.isOpen opened = true
  object : type.IsObject ↔ (∃ address, graph.front value = .container address) ∧ graph.isObject value = true ∧
    value.isOpen opened = false
  array : type.IsArray ↔ (∃ address, graph.front value = .container address) ∧ graph.isArray value = true ∧
    graph.isObject value = false ∧ value.isOpen opened = false

/-- A type is that of an array for an array and that of an object for an object, or the mark of circularity where these
are open, and for all else it is none of these. -/
structure AgreesWithClass (graph : FacetedGraph) (opened : List Address) (value : Value) (type : TypeExpr) : Prop where
  array (isArray : graph.isArray value = true) : type.IsArray ∨ (value.isOpen opened = true ∧ type = .circular)
  object (isObject : graph.isObject value = true) : type.IsObject ∨ (value.isOpen opened = true ∧ type = .circular)
  other (noArray : graph.isArray value = false) (noObject : graph.isObject value = false) : type.IsPlain

/-- A value that is of one class: what shows as a leaf is neither an array nor an object, and unless it is open, nothing
is both. -/
structure OfOneClass (graph : FacetedGraph) (opened : List Address) (value : Value) : Prop where
  leaf {leaf : Leaf} (shows : graph.front value = .leaf leaf) : graph.isArray value = false ∧ graph.isObject value = false
  container (isArray : graph.isArray value = true) (isObject : graph.isObject value = true) : value.isOpen opened = true

section Classes

variable {graph : FacetedGraph} {opened : List Address} {value : Value} {type : TypeExpr}

theorem front_cases (graph : FacetedGraph) (value : Value) :
    (∃ leaf, graph.front value = .leaf leaf) ∨ ∃ address, graph.front value = .container address := by
  cases graph.front value with
  | leaf leaf => exact .inl ⟨leaf, rfl⟩
  | container address => exact .inr ⟨address, rfl⟩

theorem TypedAsShown.plain_of_leaf (typed : graph.TypedAsShown opened value type) {leaf : Leaf}
    (shows : graph.front value = .leaf leaf) : type.IsPlain := by
  rw [typed.leaf shows]
  exact leaf.isPlain_type

/-- A type agrees with the classes of a value only if the value is of one class. -/
theorem TypedAsShown.ofOneClass (typed : graph.TypedAsShown opened value type)
    (agrees : graph.AgreesWithClass opened value type) : graph.OfOneClass opened value := by
  constructor
  · intro leaf shows
    have plain := typed.plain_of_leaf shows
    constructor
    · refine Bool.eq_false_iff.mpr fun isArray => ?_
      rcases agrees.array isArray with arrayType | ⟨-, circular⟩
      · exact plain.noArray arrayType
      · exact plain.notCircular circular
    · refine Bool.eq_false_iff.mpr fun isObject => ?_
      rcases agrees.object isObject with objectType | ⟨-, circular⟩
      · exact plain.noObject objectType
      · exact plain.notCircular circular
  · intro isArray isObject
    rcases agrees.array isArray with arrayType | ⟨isOpen, -⟩
    · have noObject := (typed.array.mp arrayType).2.2.1
      rw [isObject] at noObject
      cases noObject
    · exact isOpen

/-- The type of a value of one class agrees with its class. -/
theorem TypedAsShown.agreesWithClass (typed : graph.TypedAsShown opened value type)
    (single : graph.OfOneClass opened value) : graph.AgreesWithClass opened value type := by
  constructor
  · intro isArray
    rcases graph.front_cases value with ⟨leaf, shows⟩ | shows
    · rw [(single.leaf shows).1] at isArray
      cases isArray
    · cases isOpen : value.isOpen opened with
      | true => exact .inr ⟨rfl, typed.circular.mpr ⟨shows, .inl isArray, isOpen⟩⟩
      | false =>
          refine .inl (typed.array.mpr ⟨shows, isArray, Bool.eq_false_iff.mpr fun isObject => ?_, isOpen⟩)
          exact absurd (single.container isArray isObject) (Bool.eq_false_iff.mp isOpen)
  · intro isObject
    rcases graph.front_cases value with ⟨leaf, shows⟩ | shows
    · rw [(single.leaf shows).2] at isObject
      cases isObject
    · cases isOpen : value.isOpen opened with
      | true => exact .inr ⟨rfl, typed.circular.mpr ⟨shows, .inr isObject, isOpen⟩⟩
      | false => exact .inl (typed.object.mpr ⟨shows, isObject, isOpen⟩)
  · intro noArray noObject
    constructor
    · intro arrayType
      have isArray := (typed.array.mp arrayType).2.1
      rw [noArray] at isArray
      cases isArray
    · intro objectType
      have isObject := (typed.object.mp objectType).2.1
      rw [noObject] at isObject
      cases isObject
    · intro circular
      have isContainer := (typed.circular.mp circular).2.1
      simp [noArray, noObject] at isContainer

theorem TypedAsShown.agreesWithClass_iff (typed : graph.TypedAsShown opened value type) :
    graph.AgreesWithClass opened value type ↔ graph.OfOneClass opened value :=
  ⟨typed.ofOneClass, typed.agreesWithClass⟩

/-- What shows as a container is of one class if it is open or no array and object at once. -/
theorem OfOneClass.ofContainer {address : Address} (shows : graph.front value = .container address)
    (container : graph.isArray value = true → graph.isObject value = true → value.isOpen opened = true) :
    graph.OfOneClass opened value where
  leaf isLeaf := by
    rw [shows] at isLeaf
    cases isLeaf
  container := container

/-- The type of an array is that of an array, or circular, exactly if the array is of one class. -/
theorem TypedAsShown.isArray_iff (typed : graph.TypedAsShown opened value type) (isArray : graph.isArray value = true) :
    type.IsArray ∨ type = .circular ↔ graph.OfOneClass opened value := by
  constructor
  · rintro (arrayType | circular)
    · obtain ⟨⟨address, shows⟩, -, noObject, -⟩ := typed.array.mp arrayType
      apply OfOneClass.ofContainer shows
      intro _ isObject
      rw [noObject] at isObject
      cases isObject
    · obtain ⟨⟨address, shows⟩, -, isOpen⟩ := typed.circular.mp circular
      exact .ofContainer shows fun _ _ => isOpen
  · intro single
    rcases (typed.agreesWithClass single).array isArray with arrayType | ⟨-, circular⟩
    · exact .inl arrayType
    · exact .inr circular

end Classes

section Steps

variable {graph : FacetedGraph} {settings : Settings} {typer : MergingTyper} {opened : List Address} {depth : Int}
  {type : TypeExpr} {node : Node}

theorem isObject_of_object (typed : graph.object settings typer opened depth node = .ok type) : type.IsObject := by
  obtain ⟨entries, -, rest⟩ := Outcome.bind_eq_ok_iff.mp typed
  obtain ⟨properties, -, equal⟩ := Outcome.bind_eq_ok_iff.mp rest
  cases equal
  split
  · exact .inr ⟨_, rfl⟩
  · exact .inl ⟨_, _, rfl⟩

theorem isArray_of_ofArrays {typer : Typer} {elements : List Value}
    (typed : ArrayUnion.ofArrays settings typer opened depth elements = .ok type) : type.IsArray := by
  unfold ArrayUnion.ofArrays at typed
  split at typed
  · obtain ⟨shapes, -, rest⟩ := Outcome.bind_eq_ok_iff.mp typed
    split at rest
    · cases rest
      exact ⟨_, rfl⟩
    · cases rest
      exact ⟨_, rfl⟩
  · obtain ⟨types, -, equal⟩ := Outcome.bind_eq_ok_iff.mp typed
    cases equal
    exact ⟨_, rfl⟩

theorem isArray_of_ofKind {kind : ArrayKind} {elements : List Value}
    (typed : graph.ofKind settings typer opened depth kind elements = .ok type) : type.IsArray := by
  cases kind with
  | arrays => exact isArray_of_ofArrays typed
  | objects =>
      simp only [ofKind] at typed
      split at typed
      · obtain ⟨shape, -, equal⟩ := Outcome.bind_eq_ok_iff.mp typed
        cases equal
        exact ⟨_, rfl⟩
      · obtain ⟨shape, -, equal⟩ := Outcome.bind_eq_ok_iff.mp typed
        cases equal
        exact ⟨_, rfl⟩
  | mixed =>
      obtain ⟨types, -, equal⟩ := Outcome.bind_eq_ok_iff.mp typed
      cases equal
      exact ⟨_, rfl⟩

theorem isArray_of_array (typed : graph.array settings typer opened depth node = .ok type) : type.IsArray := by
  obtain ⟨elements, -, rest⟩ := Outcome.bind_eq_ok_iff.mp typed
  split at rest
  · cases rest
    exact ⟨_, rfl⟩
  · exact isArray_of_ofKind rest

theorem isArray_or_isObject_of_node {address : Address} (guise : (graph.facets address).guise = none)
    (isNode : graph.node? address = some node) :
    graph.isArray (.container address) = true ∨ graph.isObject (.container address) = true := by
  cases isObject : node.isObject with
  | true => exact .inr (Graph.isObject_eq_true_iff.mpr ⟨address, node, rfl, isNode, isObject⟩)
  | false =>
      have isArray := arrayAt?_of_guise guise isNode isObject
      exact .inl (by simp [FacetedGraph.isArray, isArray])

namespace TypedAsShown

theorem ofLeaf {value : Value} {leaf : Leaf} (shows : graph.front value = .leaf leaf) :
    graph.TypedAsShown opened value leaf.type where
  leaf other := by
    rw [shows] at other
    cases other
    rfl
  circular := ⟨fun circular => absurd circular leaf.isPlain_type.notCircular, by simp [shows]⟩
  object := ⟨fun isObject => absurd isObject leaf.isPlain_type.noObject, by simp [shows]⟩
  array := ⟨fun isArray => absurd isArray leaf.isPlain_type.noArray, by simp [shows]⟩

variable {address : Address} (shows : graph.front (.container address) = .container address)
include shows

/-- What shows as a container is typed as it shows itself if the type is the one that its classes call for. -/
theorem ofContainer
    (circular : type = .circular ↔ (graph.isArray (.container address) = true ∨ graph.isObject (.container address) = true) ∧
      (Value.container address).isOpen opened = true)
    (object : type.IsObject ↔ graph.isObject (.container address) = true ∧
      (Value.container address).isOpen opened = false)
    (array : type.IsArray ↔ graph.isArray (.container address) = true ∧ graph.isObject (.container address) = false ∧
      (Value.container address).isOpen opened = false) : graph.TypedAsShown opened (.container address) type where
  leaf isLeaf := by
    rw [shows] at isLeaf
    cases isLeaf
  circular := circular.trans (and_iff_right ⟨address, shows⟩).symm
  object := object.trans (and_iff_right ⟨address, shows⟩).symm
  array := array.trans (and_iff_right ⟨address, shows⟩).symm

theorem ofMissing (isMissing : graph.node? address = none) :
    graph.TypedAsShown opened (.container address) .unknown := by
  have plain := TypeExpr.isPlain_primitive "unknown"
  have noArray : graph.isArray (.container address) = false := by
    simp [FacetedGraph.isArray, arrayAt?, isMissing]
  have noObject : graph.isObject (.container address) = false := by
    simp [FacetedGraph.isObject, Graph.isObject, Graph.nodeOf?, isMissing]
  apply ofContainer shows
  · exact ⟨fun circular => absurd circular plain.notCircular, by simp [noArray, noObject]⟩
  · exact ⟨fun isObject => absurd isObject plain.noObject, by simp [noObject]⟩
  · exact ⟨fun isArray => absurd isArray plain.noArray, by simp [noArray]⟩

theorem ofOpen (isContainer : graph.isArray (.container address) = true ∨ graph.isObject (.container address) = true)
    (isOpen : (Value.container address).isOpen opened = true) :
    graph.TypedAsShown opened (.container address) .circular := by
  apply ofContainer shows
  · exact ⟨fun _ => ⟨isContainer, isOpen⟩, fun _ => rfl⟩
  · exact ⟨fun isObject => absurd rfl isObject.ne_circular, by simp [isOpen]⟩
  · exact ⟨fun isArray => absurd rfl isArray.ne_circular, by simp [isOpen]⟩

theorem ofObject (isObject : graph.isObject (.container address) = true)
    (notOpen : (Value.container address).isOpen opened = false) (objectType : type.IsObject) :
    graph.TypedAsShown opened (.container address) type := by
  apply ofContainer shows
  · exact ⟨fun circular => absurd circular objectType.ne_circular, by simp [notOpen]⟩
  · exact ⟨fun _ => ⟨isObject, notOpen⟩, fun _ => objectType⟩
  · exact ⟨fun isArray => absurd objectType isArray.not_isObject, by simp [isObject]⟩

theorem ofArray (isArray : graph.isArray (.container address) = true)
    (noObject : graph.isObject (.container address) = false)
    (notOpen : (Value.container address).isOpen opened = false) (arrayType : type.IsArray) :
    graph.TypedAsShown opened (.container address) type := by
  apply ofContainer shows
  · exact ⟨fun circular => absurd circular arrayType.ne_circular, by simp [notOpen]⟩
  · exact ⟨fun isObject => absurd isObject arrayType.not_isObject, by simp [noObject]⟩
  · exact ⟨fun _ => ⟨isArray, noObject, notOpen⟩, fun _ => arrayType⟩

end TypedAsShown

theorem arrays_of_kindOfElements {elements : List Value} (isKind : graph.kindOfElements opened elements = .arrays) :
    ∀ element ∈ elements, graph.isArray element = true := by
  unfold kindOfElements at isKind
  split at isKind
  · rename_i allArrays
    exact List.all_eq_true.mp allArrays
  · split at isKind <;> cases isKind

/-- A step types a value as it shows itself, whatever it makes of the parts. -/
theorem typedAsShown_of_value {value : Value} (typed : graph.value settings typer opened depth value = .ok type) :
    graph.TypedAsShown opened value type := by
  cases value with
  | leaf leaf =>
      cases typed
      exact .ofLeaf rfl
  | container address =>
      cases guise : (graph.facets address).guise with
      | some leaf =>
          have shows : graph.front (.container address) = .leaf leaf := by simp only [front, guise]
          rw [FacetedGraph.value, shows] at typed
          cases typed
          exact .ofLeaf shows
      | none =>
          have shows : graph.front (.container address) = .container address := by simp only [front, guise]
          simp only [FacetedGraph.value, shows] at typed
          split at typed
          · rename_i isMissing
            cases typed
            exact .ofMissing shows isMissing
          · rename_i node isNode
            split at typed
            · rename_i isOpen
              cases typed
              exact .ofOpen shows (isArray_or_isObject_of_node guise isNode) (List.contains_iff_mem.mpr isOpen)
            · rename_i fresh
              have notOpen := Value.isOpen_container_eq_false_iff.mpr fresh
              split at typed
              · rename_i isObject
                have objectClass := Graph.isObject_eq_true_iff.mpr ⟨address, node, rfl, isNode, isObject⟩
                exact .ofObject shows objectClass notOpen (isObject_of_object typed)
              · rename_i isArray
                have isArrayAt := arrayAt?_of_guise guise isNode (Bool.eq_false_iff.mpr isArray)
                have arrayClass : graph.isArray (.container address) = true := by
                  simp [FacetedGraph.isArray, isArrayAt]
                have noObject : graph.isObject (.container address) = false := by
                  simp [FacetedGraph.isObject, Graph.isObject, Graph.nodeOf?, isNode, isArray]
                exact .ofArray shows arrayClass noObject notOpen (isArray_of_array typed)

end Steps

/-- A value is typed as it shows itself, unless the contents of a container inside it cannot be listed, and the type
agrees with its classes exactly if it is of one class.  So where the elements of an array all pass for arrays, they are
typed as arrays or as circular exactly if each is of one class, although the array becomes an array of arrays in any
case where objects are merged, and in both modes where the elements are leaves of one type in the first place. -/
theorem infer_agrees_with_class (graph : FacetedGraph) (settings : Settings) (opened : List Address) :
    (∀ value depth,
      (∃ type, (graph.typer settings).infer opened depth value = .ok type ∧ graph.TypedAsShown opened value type ∧
          (graph.AgreesWithClass opened value type ↔ graph.OfOneClass opened value)) ∨
        ∃ fault, (graph.typer settings).infer opened depth value = .error fault ∧ graph.FailsBelow value fault) ∧
    (∀ elements types depth, graph.kindOfElements opened elements = .arrays →
      elements.mapM ((graph.typer settings).infer opened (depth + 1)) = .ok types →
        ((∀ type ∈ types, type.IsArray ∨ type = .circular) ↔ ∀ element ∈ elements, graph.OfOneClass opened element) ∧
        (settings.mode = .merge → ∃ inner,
          graph.unifyArray settings (graph.kindOfElements opened elements) elements depth opened =
            .ok (.array (.array inner)))) ∧
    ∀ elements depth name, elements ≠ [] →
      (∀ element ∈ elements, graph.isArray element = true ∧
        ∃ leaf, graph.front element = .leaf leaf ∧ leaf.type = .primitive name) →
      graph.unifyArray settings (graph.kindOfElements opened elements) elements depth opened =
        .ok (.array (.array (.primitive name))) := by
  refine ⟨?_, ?_, ?_⟩
  · intro value depth
    rcases graph.infer_cases settings opened depth value with ⟨type, answer⟩ | failure
    · have typed : graph.TypedAsShown opened value type := typedAsShown_of_value answer
      exact .inl ⟨type, answer, typed, typed.agreesWithClass_iff⟩
    · exact .inr failure
  · intro elements types depth isArrays answers
    have areArrays := arrays_of_kindOfElements isArrays
    have paired := Outcome.mapM_eq_ok_iff.mp answers
    refine ⟨⟨?_, ?_⟩, ?_⟩
    · intro typedAsArrays element member
      obtain ⟨type, typeMember, answer⟩ := paired.exists_right member
      have typed : graph.TypedAsShown opened element type := typedAsShown_of_value answer
      exact (typed.isArray_iff (areArrays element member)).mp (typedAsArrays type typeMember)
    · intro single type member
      obtain ⟨element, elementMember, answer⟩ := paired.exists_left member
      have typed : graph.TypedAsShown opened element type := typedAsShown_of_value answer
      exact (typed.isArray_iff (areArrays element elementMember)).mpr (single element elementMember)
    · intro merging
      rw [isArrays]
      simp only [unifyArray, ofKind, ArrayUnion.ofArrays, merging, answers]
      exact ⟨_, rfl⟩
  · intro elements depth name nonempty leaves
    have isArrays : graph.kindOfElements opened elements = .arrays := by
      rw [kindOfElements, if_pos (List.all_eq_true.mpr fun element member => (leaves element member).1)]
    rw [isArrays]
    refine ArrayUnion.ofArrays_eq_of_same nonempty ?_ depth
    intro elementDepth element member
    obtain ⟨-, leaf, shows, isNamed⟩ := leaves element member
    change graph.value settings _ opened elementDepth element = _
    rw [FacetedGraph.value, shows]
    exact congrArg Except.ok isNamed

/-- A pair that is the member of an enumeration passes for an array, and the record with the elements of an array beside
a list does too. -/
theorem infer_agrees_with_class_misfits :
    misfits.unifyArray {} (misfits.kindOfElements [] [.container 7]) [.container 7] =
        .ok (.array (.array (.primitive "symbol"))) ∧
      misfits.kindOfElements [] [.container 5, .container 6] = .arrays ∧
      ¬∀ type ∈ [deckType 1, .array (.primitive "string")], type.IsArray ∨ type = .circular := by
  obtain ⟨-, ofArrays, ofLeaves⟩ := misfits.infer_agrees_with_class {} []
  have areArrays : misfits.kindOfElements [] [.container 5, .container 6] = .arrays := by rfl
  refine ⟨?_, areArrays, fun typedAsArrays => ?_⟩
  · exact ofLeaves [.container 7] 0 "symbol" (List.cons_ne_nil _ _) (List.forall_mem_singleton.mpr ⟨rfl, _, rfl, rfl⟩)
  · have single := (ofArrays _ _ 0 areArrays (by rfl)).1.mp typedAsArrays (.container 5) List.mem_cons_self
    cases single.container rfl rfl

/-- A record with the elements of an array, and a pair and a record that are members of enumerations, are not of the
types that their classes call for, and a list of the pair is typed as an array of arrays. -/
theorem infer_disagrees_with_class_misfits :
    (∀ address ∈ [5, 7, 8], ∃ type, misfits.infer {} (.container address) = .ok type ∧
        ¬misfits.AgreesWithClass [] (.container address) type) ∧
      misfits.infer {} (.container 2) = .ok (.array (.array (.primitive "symbol"))) := by
  have plain := TypeExpr.isPlain_primitive "symbol"
  simp only [List.forall_mem_cons, List.not_mem_nil, false_implies, implies_true, and_true]
  refine ⟨⟨⟨deckType 0, by rfl, fun agrees => ?_⟩, ⟨.primitive "symbol", by rfl, fun agrees => ?_⟩,
    ⟨.primitive "symbol", by rfl, fun agrees => ?_⟩⟩, by rfl⟩
  · rcases agrees.array rfl with ⟨element, impossible⟩ | ⟨impossible, -⟩ <;> cases impossible
  · exact (agrees.array rfl).elim plain.noArray fun isOpen => plain.notCircular isOpen.2
  · exact (agrees.object rfl).elim plain.noObject fun isOpen => plain.notCircular isOpen.2

end FacetedGraph

end SampleTypes
