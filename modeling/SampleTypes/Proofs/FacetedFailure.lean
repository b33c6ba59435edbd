import SampleTypes.Proofs.BareContainers
import SampleTypes.Proofs.Failure

/-!
# Why a value with facets has no type

With facets too, typing fails only where the contents of some container inside the value cannot be listed, and with
the same fault.  The budget is never the reason: on the way down no container is opened while it is open already, so a
budget that exceeds the number of containers that are not open is not spent.
-/

namespace SampleTypes

theorem Value.subset_open (value : Value) (opened : List Address) : opened ⊆ value.open opened := by
  cases value with
  | leaf leaf => exact List.Subset.refl opened
  | container address => exact List.subset_cons_self address opened

/-- Distinct shapes cannot be told where an element has no type. -/
theorem ArrayUnion.distinctShapes_eq_error_cases {settings : Settings} {typer : Typer} {opened : List Address}
    {depth : Int} {elements : List Value} {fault : Fault}
    (failed : distinctShapes settings typer opened depth elements = .error fault) :
    ∃ element ∈ elements, ∃ elementDepth, typer.infer opened elementDepth element = .error fault := by
  obtain typesFailed | ⟨types, -, rest⟩ := Outcome.bind_eq_error_iff.mp failed
  · obtain ⟨element, member, elementFailed⟩ := Outcome.mapM_eq_error typesFailed
    exact ⟨element, member, _, elementFailed⟩
  · split at rest
    · exact ⟨_, List.mem_cons_self, _, rest⟩
    · cases rest

namespace FacetedGraph

/-- What is in a container, in the order in which it is typed. -/
def contents (graph : FacetedGraph) (node : Node) : Except Fault (List Value) :=
  if node.isObject then return (← graph.entriesOfNode node).flatMap (·.2) else graph.elements node

/-- One value is directly inside another one, as what the node of the other one holds or as an element of the array that
it is. -/
def Holds (graph : FacetedGraph) (whole part : Value) : Prop :=
  ∃ address node, whole = .container address ∧ (graph.node? address = some node ∨ graph.arrayAt? address = some node) ∧
    part ∈ node.held

/-- One value is another one or somewhere inside it. -/
def Reaches (graph : FacetedGraph) : Value → Value → Prop :=
  Relation.ReflTransGen graph.Holds

/-- The contents of some container in a value cannot be listed, for the given reason. -/
def FailsBelow (graph : FacetedGraph) (value : Value) (fault : Fault) : Prop :=
  ∃ whole node, graph.Reaches value whole ∧ graph.nodeOf? whole = some node ∧ graph.contents node = .error fault

variable {graph : FacetedGraph} {settings : Settings} {typer : MergingTyper} {opened : List Address} {depth : Int}
  {fault : Fault}

theorem FailsBelow.of_held {address : Address} {node : Node} {part : Value}
    (isNode : graph.node? address = some node ∨ graph.arrayAt? address = some node) (held : part ∈ node.held)
    (failed : graph.FailsBelow part fault) : graph.FailsBelow (.container address) fault := by
  obtain ⟨whole, wholeNode, reached, isWhole, notListed⟩ := failed
  exact ⟨whole, wholeNode, reached.head ⟨address, node, rfl, isNode, held⟩, isWhole, notListed⟩

theorem failsBelow_of_entriesOfNode {address : Address} {node : Node} (isNode : graph.node? address = some node)
    (isObject : node.isObject = true) (failed : graph.entriesOfNode node = .error fault) :
    graph.FailsBelow (.container address) fault := by
  refine ⟨_, node, .refl, isNode, ?_⟩
  simp only [contents, if_pos isObject, failed]
  rfl

theorem failsBelow_of_elements {address : Address} {node : Node} (isNode : graph.node? address = some node)
    (isArray : node.isObject = false) (failed : graph.elements node = .error fault) :
    graph.FailsBelow (.container address) fault := by
  refine ⟨_, node, .refl, isNode, ?_⟩
  rw [contents, isArray]
  exact failed

/-- An array that a container is has a node. -/
theorem exists_node_of_arrayAt? {address : Address} {array : Node} (isArray : graph.arrayAt? address = some array) :
    (∃ node, graph.node? address = some node) ∧ array.isObject = false := by
  unfold arrayAt? at isArray
  split at isArray
  · cases isArray
  · split at isArray
    · cases isArray
    · cases isArray
    · rename_i name fields isNode
      obtain ⟨collection, -, rfl⟩ := Option.map_eq_some_iff.mp isArray
      exact ⟨⟨_, isNode⟩, collection.property⟩
    · rename_i node noMapping noRecord isNode
      cases isArray
      refine ⟨⟨_, isNode⟩, ?_⟩
      cases array with
      | mapping kind entries => exact absurd rfl (noMapping kind entries)
      | record name fields => exact absurd rfl (noRecord name fields)
      | sequence | range | view | set => rfl

/-- A merged array has nothing but objects, and is not open. -/
theorem of_mergedArray? {address : Address} {array : Node} (isMerged : graph.mergedArray? opened address = some array) :
    graph.arrayAt? address = some array ∧ (∀ element ∈ array.members, graph.isObject element = true) ∧
      address ∉ opened := by
  obtain ⟨node, isArray, rest⟩ := Option.bind_eq_some_iff.mp isMerged
  dsimp only at rest
  split at rest
  · rename_i holds
    cases rest
    simp only [Bool.and_eq_true, Bool.not_eq_true', List.all_eq_true, List.contains_eq_mem,
      decide_eq_false_iff_not] at holds
    exact ⟨isArray, fun element member => (holds.1.2 element member).1, holds.2⟩
  · cases rest

theorem objects_of_kindOfElements {elements : List Value} (isKind : graph.kindOfElements opened elements = .objects) :
    ∀ element ∈ elements, graph.isObject element = true := by
  unfold kindOfElements at isKind
  split at isKind
  · cases isKind
  · split at isKind
    · rename_i allObjects
      intro element member
      have isObject := List.all_eq_true.mp allObjects element member
      exact (Bool.and_eq_true_iff.mp isObject).1
    · cases isKind

/-- Merging fails where the entries of an object cannot be listed, or where a value that an object has under a key
contributes no type. -/
theorem shapes_eq_error_cases {objects : List Value}
    (failed : graph.shapes settings typer opened depth objects = .error fault) :
    ∃ object ∈ objects, graph.entries object = .error fault ∨
      ∃ entries key part, graph.entries object = .ok entries ∧ Filed entries key part ∧
        typer.contribute (object.open opened) (depth + 1) part = .error fault := by
  unfold shapes at failed
  split at failed
  · cases failed
  · obtain describing | ⟨described, describing, rest⟩ := Outcome.bind_eq_error_iff.mp failed
    · obtain ⟨object, member, objectFailed⟩ := Outcome.mapM_eq_error describing
      obtain listing | ⟨entries, -, impossible⟩ := Outcome.bind_eq_error_iff.mp objectFailed
      · exact ⟨object, member, .inl listing⟩
      · cases impossible
    · dsimp only at rest
      split at rest
      · cases rest
      · obtain propertiesFailed | ⟨properties, -, impossible⟩ := Outcome.bind_eq_error_iff.mp rest
        · obtain ⟨key, description, isDescribed, part, partMember, partFailed⟩ :=
            Merge.properties_eq_error propertiesFailed
          obtain ⟨object, member, describes⟩ := (Outcome.mapM_eq_ok_iff.mp describing).exists_left isDescribed
          obtain ⟨entries, listing, equal⟩ := Outcome.bind_eq_ok_iff.mp describes
          cases equal
          have filed := Merge.filed_of_mem_valuesUnder partMember
          exact ⟨object, member, .inr ⟨entries, key, part, listing, filed, partFailed⟩⟩
        · cases impossible

end FacetedGraph

/-- A typer that fails only where the contents of a container inside the value cannot be listed, as long as fewer
containers are left to open than a budget says. -/
structure MergingTyper.Justified (graph : FacetedGraph) (typer : MergingTyper) (budget : Nat) : Prop where
  infer {opened : List Address} {depth : Int} {value : Value} {fault : Fault}
    (enough : (graph.unopened opened).card < budget) (failed : typer.infer opened depth value = .error fault) :
    graph.FailsBelow value fault
  contribute {opened : List Address} {depth : Int} {value : Value} {fault : Fault}
    (enough : (graph.unopened opened).card < budget) (failed : typer.contribute opened depth value = .error fault) :
    graph.FailsBelow value fault
  merge {opened : List Address} {depth : Int} {value : Value} {fault : Fault}
    (enough : (graph.unopened opened).card < budget) (isObject : graph.isObject value = true)
    (failed : typer.merge opened depth value = .error fault) : graph.FailsBelow value fault

namespace FacetedGraph

section Steps

variable {graph : FacetedGraph} {settings : Settings} {typer : MergingTyper} {budget : Nat} {opened : List Address}
  {depth : Int} {fault : Fault} (justified : typer.Justified graph budget)
include justified

/-- Merging fails only below one of the objects. -/
theorem failsBelow_of_shapes {objects : List Value} (areObjects : ∀ object ∈ objects, graph.isObject object = true)
    (enough : ∀ object ∈ objects, (graph.unopened (object.open opened)).card < budget)
    (failed : graph.shapes settings typer opened depth objects = .error fault) :
    ∃ object ∈ objects, graph.FailsBelow object fault := by
  obtain ⟨object, member, reason⟩ := shapes_eq_error_cases failed
  obtain ⟨address, node, rfl, isNode, isObject⟩ := Graph.isObject_eq_true_iff.mp (areObjects object member)
  refine ⟨_, member, ?_⟩
  rw [entries_container isNode] at reason
  obtain notListed | ⟨entries, key, part, listing, filed, partFailed⟩ := reason
  · exact failsBelow_of_entriesOfNode isNode isObject notListed
  · exact (justified.contribute (enough _ member) partFailed).of_held (.inl isNode) (mem_held_of_entries listing filed)

theorem failsBelow_of_distinctShapes {elements : List Value} (enough : (graph.unopened opened).card < budget)
    (failed : ArrayUnion.distinctShapes settings typer.toTyper opened depth elements = .error fault) :
    ∃ element ∈ elements, graph.FailsBelow element fault := by
  obtain ⟨element, member, elementDepth, elementFailed⟩ := ArrayUnion.distinctShapes_eq_error_cases failed
  exact ⟨element, member, justified.infer enough elementFailed⟩

/-- Typing the elements of an array by their kind fails only below one of them. -/
theorem failsBelow_of_ofKind {elements : List Value} (enough : (graph.unopened opened).card < budget)
    (failed : graph.ofKind settings typer opened depth (graph.kindOfElements opened elements) elements = .error fault) :
    ∃ element ∈ elements, graph.FailsBelow element fault := by
  cases isKind : graph.kindOfElements opened elements with
  | arrays =>
      simp only [isKind, ofKind, ArrayUnion.ofArrays] at failed
      split at failed
      · obtain shapesFailed | ⟨shapes, -, rest⟩ := Outcome.bind_eq_error_iff.mp failed
        · exact failsBelow_of_distinctShapes justified enough shapesFailed
        · split at rest <;> cases rest
      · obtain typesFailed | ⟨types, -, impossible⟩ := Outcome.bind_eq_error_iff.mp failed
        · obtain ⟨element, member, elementFailed⟩ := Outcome.mapM_eq_error typesFailed
          exact ⟨element, member, justified.infer enough elementFailed⟩
        · cases impossible
  | objects =>
      have areObjects := objects_of_kindOfElements isKind
      simp only [isKind, ofKind] at failed
      split at failed
      · obtain shapesFailed | ⟨shapes, -, impossible⟩ := Outcome.bind_eq_error_iff.mp failed
        · apply failsBelow_of_shapes justified areObjects _ shapesFailed
          intro object _
          exact Nat.lt_of_le_of_lt (Finset.card_le_card (Graph.unopened_subset (object.subset_open opened))) enough
        · cases impossible
      · obtain shapesFailed | ⟨shapes, -, impossible⟩ := Outcome.bind_eq_error_iff.mp failed
        · exact failsBelow_of_distinctShapes justified enough shapesFailed
        · cases impossible
  | mixed =>
      simp only [isKind, ofKind] at failed
      obtain typesFailed | ⟨types, -, impossible⟩ := Outcome.bind_eq_error_iff.mp failed
      · obtain ⟨element, member, elementFailed⟩ := Outcome.mapM_eq_error typesFailed
        refine ⟨element, member, ?_⟩
        split at elementFailed
        · rename_i merged
          exact justified.merge enough merged.2 elementFailed
        · exact justified.infer enough elementFailed
      · cases impossible

theorem failsBelow_of_object {address : Address} {node : Node} (enough : (graph.unopened opened).card < budget)
    (isNode : graph.node? address = some node) (isObject : node.isObject = true)
    (failed : graph.object settings typer opened depth node = .error fault) :
    graph.FailsBelow (.container address) fault := by
  obtain notListed | ⟨entries, listing, rest⟩ := Outcome.bind_eq_error_iff.mp failed
  · exact failsBelow_of_entriesOfNode isNode isObject notListed
  · obtain propertiesFailed | ⟨properties, -, impossible⟩ := Outcome.bind_eq_error_iff.mp rest
    · obtain ⟨entry, entryMember, entryFailed⟩ := Outcome.mapM_eq_error propertiesFailed
      obtain partsFailed | ⟨types, -, impossible⟩ := Outcome.bind_eq_error_iff.mp entryFailed
      · obtain ⟨part, partMember, partFailed⟩ := Outcome.mapM_eq_error partsFailed
        exact (justified.infer enough partFailed).of_held (.inl isNode)
          (mem_held_of_entries listing ⟨entry, entryMember, rfl, partMember⟩)
      · cases impossible
    · cases impossible

theorem failsBelow_of_array {address : Address} {node : Node} (enough : (graph.unopened opened).card < budget)
    (isNode : graph.node? address = some node) (isArray : node.isObject = false)
    (failed : graph.array settings typer opened depth node = .error fault) :
    graph.FailsBelow (.container address) fault := by
  obtain notListed | ⟨elements, listing, rest⟩ := Outcome.bind_eq_error_iff.mp failed
  · exact failsBelow_of_elements isNode isArray notListed
  · split at rest
    · cases rest
    · obtain ⟨element, member, below⟩ := failsBelow_of_ofKind justified enough rest
      refine below.of_held (.inl isNode) ?_
      rw [Node.held_of_array isArray]
      exact (elements_perm_members listing).mem_iff.mp member

theorem failsBelow_of_value {value : Value} (enough : (graph.unopened opened).card < budget + 1)
    (failed : graph.value settings typer opened depth value = .error fault) : graph.FailsBelow value fault := by
  cases value with
  | leaf leaf => cases failed
  | container address =>
      cases guise : (graph.facets address).guise with
      | some leaf =>
          simp only [FacetedGraph.value, front, guise] at failed
          cases failed
      | none =>
          simp only [FacetedGraph.value, front, guise] at failed
          split at failed
          · cases failed
          · rename_i node isNode
            split at failed
            · cases failed
            · rename_i fresh
              have fewer := Graph.card_unopened_lt isNode fresh List.mem_cons_self (List.subset_cons_self address opened)
              have enoughInside : (graph.unopened (address :: opened)).card < budget := by omega
              split at failed
              · rename_i isObject
                exact failsBelow_of_object justified enoughInside isNode isObject failed
              · rename_i isArray
                exact failsBelow_of_array justified enoughInside isNode (by simpa using isArray) failed

theorem failsBelow_of_mergedObject {value : Value} (enough : (graph.unopened opened).card < budget + 1)
    (isObject : graph.isObject value = true)
    (failed : graph.mergedObject settings typer opened depth value = .error fault) : graph.FailsBelow value fault := by
  unfold mergedObject at failed
  split at failed
  · cases failed
  · rename_i notOpen
    obtain ⟨address, node, rfl, isNode, -⟩ := Graph.isObject_eq_true_iff.mp isObject
    have fresh := Value.isOpen_container_eq_false_iff.mp (Bool.eq_false_iff.mpr notOpen)
    have fewer := Graph.card_unopened_lt isNode fresh List.mem_cons_self (List.subset_cons_self address opened)
    have enoughInside : (graph.unopened ((Value.container address).open opened)).card < budget := by
      change (graph.unopened (address :: opened)).card < budget
      omega
    obtain ⟨object, member, below⟩ := failsBelow_of_shapes justified (List.forall_mem_singleton.mpr isObject)
      (List.forall_mem_singleton.mpr enoughInside) failed
    rw [List.mem_singleton.mp member] at below
    exact below

theorem failsBelow_of_contribution {value : Value} (enough : (graph.unopened opened).card < budget + 1)
    (failed : graph.contribution settings typer opened depth value = .error fault) : graph.FailsBelow value fault := by
  cases value with
  | leaf leaf => cases failed
  | container address =>
      simp only [contribution] at failed
      split at failed
      · rename_i array isMerged
        obtain ⟨isArray, areObjects, fresh⟩ := of_mergedArray? isMerged
        obtain ⟨⟨node, isNode⟩, noObject⟩ := exists_node_of_arrayAt? isArray
        have fewer := Graph.card_unopened_lt isNode fresh List.mem_cons_self (List.subset_cons_self address opened)
        obtain shapesFailed | ⟨shape, -, impossible⟩ := Outcome.bind_eq_error_iff.mp failed
        · have enoughInside (object : Value) (_ : object ∈ array.members) :
              (graph.unopened (object.open (address :: opened))).card < budget := by
            have noMore := Finset.card_le_card (Graph.unopened_subset (object.subset_open (address :: opened)))
              (s := graph.unopened _)
            omega
          obtain ⟨object, member, below⟩ := failsBelow_of_shapes justified areObjects enoughInside shapesFailed
          refine below.of_held (.inr isArray) ?_
          rw [Node.held_of_array noObject]
          exact member
        · cases impossible
      · split at failed
        · rename_i isObject
          exact failsBelow_of_mergedObject justified enough isObject failed
        · exact failsBelow_of_value justified enough failed

end Steps

theorem justified_typerWithin (graph : FacetedGraph) (settings : Settings) (budget : Nat) :
    (graph.typerWithin settings budget).Justified graph budget := by
  induction budget with
  | zero =>
      constructor
      · intro _ _ _ _ enough
        exact absurd enough (Nat.not_lt_zero _)
      · intro _ _ _ _ enough
        exact absurd enough (Nat.not_lt_zero _)
      · intro _ _ _ _ enough
        exact absurd enough (Nat.not_lt_zero _)
  | succ budget induction =>
      constructor
      · intro opened depth value fault enough failed
        exact failsBelow_of_value induction enough failed
      · intro opened depth value fault enough failed
        exact failsBelow_of_contribution induction enough failed
      · intro opened depth value fault enough isObject failed
        exact failsBelow_of_mergedObject induction enough isObject failed

/-- Whatever is open around a value, it has a type by itself or a container whose contents cannot be listed. -/
theorem infer_cases (graph : FacetedGraph) (settings : Settings) (opened : List Address) (depth : Int) (value : Value) :
    (∃ type, (graph.typer settings).infer opened depth value = .ok type) ∨
      ∃ fault, (graph.typer settings).infer opened depth value = .error fault ∧ graph.FailsBelow value fault := by
  cases outcome : (graph.typer settings).infer opened depth value with
  | ok type => exact .inl ⟨type, rfl⟩
  | error fault =>
      have enough := Nat.lt_succ_of_le (graph.card_unopened_le opened)
      exact .inr ⟨fault, rfl, (justified_typerWithin graph settings _).infer enough outcome⟩

end FacetedGraph

end SampleTypes
