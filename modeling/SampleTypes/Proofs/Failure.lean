import SampleTypes.Proofs.Building
import SampleTypes.Proofs.Termination

/-!
# Why a value has no type

Typing fails only where the contents of some container inside the value cannot be listed, and with the same
fault.  In particular the budget is never the reason.
-/

namespace SampleTypes

namespace Merge

variable {graph : Graph} {settings : Settings} {typer : Typer} {opened : List Address} {depth : Int}
  {fault : Fault}

/-- Merged properties do not exist where a value under a key contributes no type. -/
theorem properties_eq_error {described : List Described} {keys : List String}
    (failed : keys.mapM (property settings typer opened depth described) = .error fault) :
    ∃ key, ∃ description ∈ described, ∃ part ∈ description.valuesUnder key,
      typer.contribute (description.object.open opened) (depth + 1) part = .error fault := by
  obtain ⟨key, -, propertyFailed⟩ := Outcome.mapM_eq_error failed
  obtain contributing | ⟨types, -, impossible⟩ := Outcome.bind_eq_error_iff.mp propertyFailed
  · obtain typesFailed | ⟨types, -, impossible⟩ := Outcome.bind_eq_error_iff.mp contributing
    · obtain ⟨description, member, partsFailed⟩ := Outcome.mapM_eq_error typesFailed
      obtain ⟨part, partMember, partFailed⟩ := Outcome.mapM_eq_error partsFailed
      exact ⟨key, description, member, part, partMember, partFailed⟩
    · cases impossible
  · cases impossible

/-- Merging fails where the entries of an object cannot be listed, or where a value that an object has under a key
contributes no type. -/
theorem shapes_eq_error_cases {objects : List Value}
    (failed : shapes graph settings typer opened depth objects = .error fault) :
    (∃ object ∈ objects, graph.entries object = .error fault) ∨
      ∃ described key contributor, describe graph objects = .ok described ∧
        contributor ∈ contributors described key ∧
        typer.contribute (contributor.1.open opened) (depth + 1) contributor.2 = .error fault := by
  unfold shapes at failed
  split at failed
  · cases failed
  · rcases Outcome.bind_eq_error_iff.mp failed with describing | ⟨described, describing, rest⟩
    · obtain ⟨object, member, objectFailed⟩ := Outcome.mapM_eq_error describing
      rcases Outcome.bind_eq_error_iff.mp objectFailed with listing | ⟨entries, -, impossible⟩
      · exact .inl ⟨object, member, listing⟩
      · cases impossible
    · dsimp only at rest
      split at rest
      · cases rest
      · rcases Outcome.bind_eq_error_iff.mp rest with propertiesFailed | ⟨properties, -, impossible⟩
        · obtain ⟨key, description, member, part, partMember, partFailed⟩ := properties_eq_error propertiesFailed
          have contributor : (description.object, part) ∈ contributors described key :=
            List.mem_flatMap.mpr ⟨description, member, List.mem_map_of_mem partMember⟩
          exact .inr ⟨described, key, _, describing, contributor, partFailed⟩
        · cases impossible

/-- If the typer does not fail, merging fails where the entries of an object cannot be listed. -/
theorem shapes_eq_error {objects : List Value}
    (faultless : ∀ opened depth value, typer.contribute opened depth value ≠ .error fault)
    (failed : shapes graph settings typer opened depth objects = .error fault) :
    ∃ object ∈ objects, graph.entries object = .error fault := by
  obtain listing | ⟨_, _, _, -, -, partFailed⟩ := shapes_eq_error_cases failed
  · exact listing
  · exact absurd partFailed (faultless _ _ _)

end Merge

namespace ArrayUnion

variable {graph : Graph} {settings : Settings} {typer : Typer} {opened : List Address} {depth : Int}
  {fault : Fault} {elements : List Value}

theorem distinctShapes_ne_error
    (faultless : ∀ opened depth value, typer.infer opened depth value ≠ .error fault) :
    distinctShapes settings typer opened depth elements ≠ .error fault := by
  intro failed
  rcases Outcome.bind_eq_error_iff.mp failed with typesFailed | ⟨types, -, rest⟩
  · obtain ⟨element, -, elementFailed⟩ := Outcome.mapM_eq_error typesFailed
    exact faultless _ _ _ elementFailed
  · split at rest
    · exact faultless _ _ _ rest
    · cases rest

/-- If the typer does not fail, typing the elements of an array fails where the entries of an object among them
cannot be listed. -/
theorem ofKind_eq_error (faultlessInfer : ∀ opened depth value, typer.infer opened depth value ≠ .error fault)
    (faultlessContribute : ∀ opened depth value, typer.contribute opened depth value ≠ .error fault)
    (failed : ofKind graph settings typer opened depth (.ofElements graph opened elements) elements =
      .error fault) :
    ∃ element ∈ elements, graph.isObject element = true ∧ graph.entries element = .error fault := by
  unfold ArrayKind.ofElements at failed
  split at failed
  · simp only [ofKind, ofArrays] at failed
    split at failed
    · rcases Outcome.bind_eq_error_iff.mp failed with shapesFailed | ⟨shapes, -, rest⟩
      · exact absurd shapesFailed (distinctShapes_ne_error faultlessInfer)
      · split at rest
        · cases rest
        · cases rest
    · rcases Outcome.bind_eq_error_iff.mp failed with typesFailed | ⟨types, -, impossible⟩
      · obtain ⟨element, -, elementFailed⟩ := Outcome.mapM_eq_error typesFailed
        exact absurd elementFailed (faultlessInfer _ _ _)
      · cases impossible
  · split at failed
    · rename_i allObjects
      simp only [ofKind, ofObjects] at failed
      split at failed
      · rcases Outcome.bind_eq_error_iff.mp failed with shapesFailed | ⟨shape, -, impossible⟩
        · obtain ⟨element, member, listing⟩ := Merge.shapes_eq_error faultlessContribute shapesFailed
          have isObject := List.all_eq_true.mp allObjects element member
          rw [Bool.and_eq_true] at isObject
          exact ⟨element, member, isObject.1, listing⟩
        · cases impossible
      · rcases Outcome.bind_eq_error_iff.mp failed with shapesFailed | ⟨shapes, -, impossible⟩
        · exact absurd shapesFailed (distinctShapes_ne_error faultlessInfer)
        · cases impossible
    · simp only [ofKind, ofMixed] at failed
      rcases Outcome.bind_eq_error_iff.mp failed with typesFailed | ⟨types, -, impossible⟩
      · obtain ⟨element, -, elementFailed⟩ := Outcome.mapM_eq_error typesFailed
        split at elementFailed
        · exact absurd elementFailed (faultlessContribute _ _ _)
        · exact absurd elementFailed (faultlessInfer _ _ _)
      · cases impossible

end ArrayUnion

namespace Graph

variable {graph : Graph} {fault : Fault}

theorem failsBelow_of_entries {value : Value} (isObject : graph.isObject value = true)
    (failed : graph.entries value = .error fault) : graph.FailsBelow value fault := by
  obtain ⟨address, node, rfl, isNode, nodeIsObject⟩ := isObject_eq_true_iff.mp isObject
  rw [entries_container isNode] at failed
  exact ⟨_, node, .refl, isNode, contents_eq_error_of_entries nodeIsObject failed⟩

theorem FailsBelow.of_holds {whole part : Value} (holds : graph.Holds whole part)
    (failed : graph.FailsBelow part fault) : graph.FailsBelow whole fault :=
  failed.of_reaches (.single holds)

end Graph

namespace Inference

variable {graph : Graph} {settings : Settings} {inner : Typer} {opened : List Address} {depth : Int}
  {fault : Fault}

theorem failsBelow_of_array {address : Address} {node : Node}
    (faultlessInfer : ∀ opened depth value, inner.infer opened depth value ≠ .error fault)
    (faultlessContribute : ∀ opened depth value, inner.contribute opened depth value ≠ .error fault)
    (isNode : graph.node? address = some node) (isArray : node.isObject = false)
    (failed : array graph settings inner opened depth node = .error fault) :
    graph.FailsBelow (.container address) fault := by
  rcases Outcome.bind_eq_error_iff.mp failed with listing | ⟨elements, listing, rest⟩
  · refine ⟨_, node, .refl, isNode, ?_⟩
    rw [Graph.contents_of_array isArray]
    exact listing
  · split at rest
    · cases rest
    · obtain ⟨element, member, isObject, entriesFailed⟩ :=
        ArrayUnion.ofKind_eq_error faultlessInfer faultlessContribute rest
      have held : element ∈ node.held := by
        rw [Node.held_of_array isArray]
        exact (Graph.elements_perm_members listing).mem_iff.mp member
      exact (Graph.failsBelow_of_entries isObject entriesFailed).of_holds ⟨node, isNode, held⟩

/-- Typing an object by itself fails where its entries cannot be listed, or where a value in it has no type. -/
theorem object_eq_error_cases {node : Node}
    (failed : object graph settings inner opened depth node = .error fault) :
    graph.entriesOfNode node = .error fault ∨
      ∃ entries entry part, graph.entriesOfNode node = .ok entries ∧ entry ∈ entries ∧ part ∈ entry.2 ∧
        inner.infer opened (depth + 1) part = .error fault := by
  rcases Outcome.bind_eq_error_iff.mp failed with listing | ⟨entries, listing, rest⟩
  · exact .inl listing
  · rcases Outcome.bind_eq_error_iff.mp rest with propertiesFailed | ⟨properties, -, impossible⟩
    · obtain ⟨entry, entryMember, entryFailed⟩ := Outcome.mapM_eq_error propertiesFailed
      rcases Outcome.bind_eq_error_iff.mp entryFailed with partsFailed | ⟨types, -, impossible⟩
      · obtain ⟨part, partMember, partFailed⟩ := Outcome.mapM_eq_error partsFailed
        exact .inr ⟨entries, entry, part, listing, entryMember, partMember, partFailed⟩
      · cases impossible
    · cases impossible

theorem failsBelow_of_object {address : Address} {node : Node}
    (faultlessInfer : ∀ opened depth value, inner.infer opened depth value ≠ .error fault)
    (isNode : graph.node? address = some node) (isObject : node.isObject = true)
    (failed : object graph settings inner opened depth node = .error fault) :
    graph.FailsBelow (.container address) fault := by
  obtain listing | ⟨_, _, _, -, -, -, partFailed⟩ := object_eq_error_cases failed
  · exact ⟨_, node, .refl, isNode, Graph.contents_eq_error_of_entries isObject listing⟩
  · exact absurd partFailed (faultlessInfer _ _ _)

theorem failsBelow_of_mergedArray {address : Address} {node : Node}
    (faultlessContribute : ∀ opened depth value, inner.contribute opened depth value ≠ .error fault)
    (isNode : graph.node? address = some node) (isMerged : isMergedArray graph opened node = true)
    {elementsOpened : List Address}
    (failed : Merge.shapes graph settings inner elementsOpened depth node.members = .error fault) :
    graph.FailsBelow (.container address) fault := by
  obtain ⟨element, member, entriesFailed⟩ := Merge.shapes_eq_error faultlessContribute failed
  simp only [isMergedArray, Bool.and_eq_true, Bool.not_eq_true', List.all_eq_true] at isMerged
  obtain ⟨⟨isArray, -⟩, allObjects⟩ := isMerged
  have isObject := (allObjects element member).1
  rw [← Node.held_of_array isArray] at member
  exact (Graph.failsBelow_of_entries isObject entriesFailed).of_holds ⟨node, isNode, member⟩

theorem failsBelow_of_mergedObject {address : Address} {node : Node}
    (faultlessContribute : ∀ opened depth value, inner.contribute opened depth value ≠ .error fault)
    (isNode : graph.node? address = some node) (isObject : node.isObject = true)
    (failed : Merge.shapes graph settings inner opened depth [.container address] = .error fault) :
    graph.FailsBelow (.container address) fault := by
  obtain ⟨object, member, entriesFailed⟩ := Merge.shapes_eq_error faultlessContribute failed
  rw [List.mem_singleton.mp member] at entriesFailed
  apply Graph.failsBelow_of_entries _ entriesFailed
  exact Graph.isObject_eq_true_iff.mpr ⟨address, node, rfl, isNode, isObject⟩

/-- If the typer does not fail, a step fails only where the contents of a container cannot be listed. -/
theorem failsBelow_of_faultless {outer : Call} (faultless : ∀ call, inner.answer call ≠ .error fault)
    (failed : (step graph settings inner).answer outer = .error fault) :
    graph.FailsBelow outer.value fault := by
  have faultlessInfer (opened : List Address) (depth : Int) (value : Value) :
      inner.infer opened depth value ≠ .error fault := faultless ⟨false, opened, depth, value⟩
  have faultlessContribute (opened : List Address) (depth : Int) (value : Value) :
      inner.contribute opened depth value ≠ .error fault := faultless ⟨true, opened, depth, value⟩
  obtain ⟨merging, opened, depth, target⟩ := outer
  unfold Typer.answer step at failed
  cases target with
  | leaf leaf => cases merging <;> cases failed
  | container address =>
      cases isNode : graph.node? address with
      | none => cases merging <;> simp [value, contribution, isNode] at failed
      | some node =>
          by_cases isOpen : address ∈ opened
          · cases merging <;> simp [value, contribution, isNode, isOpen] at failed
          · cases merging with
            | false =>
                simp only [Bool.false_eq_true, if_false, value, isNode, if_neg isOpen] at failed
                split at failed
                · rename_i isObject
                  exact failsBelow_of_object faultlessInfer isNode isObject failed
                · rename_i isArray
                  exact failsBelow_of_array faultlessInfer faultlessContribute isNode
                    (by simpa using isArray) failed
            | true =>
                simp only [if_true, contribution, isNode, if_neg isOpen] at failed
                split at failed
                · rename_i isMerged
                  rcases Outcome.bind_eq_error_iff.mp failed with shapesFailed | ⟨shape, -, impossible⟩
                  · exact failsBelow_of_mergedArray faultlessContribute isNode isMerged shapesFailed
                  · cases impossible
                · split at failed
                  · rename_i isObject
                    exact failsBelow_of_mergedObject faultlessContribute isNode isObject failed
                  · rename_i isArray
                    exact failsBelow_of_array faultlessInfer faultlessContribute isNode
                      (by simpa using isArray) failed

end Inference

/-- A call inside another one is for a value inside its value. -/
theorem Call.Nests.reaches {graph : Graph} {outer inner : Call} (nests : outer.Nests graph inner) :
    graph.Reaches outer.value inner.value := by
  cases nests with
  | part isContainer isNode fresh held opens deeper =>
      rw [isContainer]
      exact .single ⟨_, isNode, held⟩
  | elementPart isContainer isNode fresh isArray element isObjectNode isObject objectFresh held opens
      deeper =>
      rw [isContainer]
      exact .tail (.single ⟨_, isNode, element⟩) ⟨_, isObjectNode, held⟩

/-- An outcome with one fault replaced by the type of what is not known. -/
def Typed.without (fault : Fault) (outcome : Typed TypeExpr) : Typed TypeExpr :=
  if outcome = .error fault then .ok .unknown else outcome

/-- The typer that answers where another one has a fault. -/
def Typer.without (fault : Fault) (typer : Typer) : Typer where
  infer opened depth value := Typed.without fault (typer.infer opened depth value)
  contribute opened depth value := Typed.without fault (typer.contribute opened depth value)

theorem Typer.answer_without (fault : Fault) (typer : Typer) (call : Call) :
    (typer.without fault).answer call = Typed.without fault (typer.answer call) := by
  unfold Typer.answer Typer.without
  split <;> rfl

theorem Typed.without_ne (fault : Fault) (outcome : Typed TypeExpr) :
    Typed.without fault outcome ≠ .error fault := by
  unfold Typed.without
  split
  · simp
  · assumption

namespace Inference

variable {graph : Graph} {settings : Settings}

/-- A step fails where the typer fails below the value, or where contents cannot be listed. -/
theorem failsBelow_of_step {inner : Typer} {fault : Fault}
    (justified : ∀ call, inner.answer call = .error fault → graph.FailsBelow call.value fault)
    {outer : Call} (failed : (step graph settings inner).answer outer = .error fault) :
    graph.FailsBelow outer.value fault := by
  by_cases nested : ∃ call, outer.Nests graph call ∧ inner.answer call = .error fault
  · obtain ⟨call, nests, callFailed⟩ := nested
    exact (justified call callFailed).of_reaches nests.reaches
  · have agree : ∀ call, outer.Nests graph call →
        inner.answer call = (inner.without fault).answer call := by
      intro call nests
      have answered : inner.answer call ≠ .error fault := fun callFailed => nested ⟨call, nests, callFailed⟩
      rw [Typer.answer_without, Typed.without, if_neg answered]
    rw [step_answer_congr agree] at failed
    apply failsBelow_of_faultless _ failed
    intro call
    rw [Typer.answer_without]
    exact Typed.without_ne fault _

def unfailing : Typer where
  infer _ _ _ := .ok .unknown
  contribute _ _ _ := .ok .unknown

theorem failsBelow_of_typerOn (budget : Nat) {call : Call} {fault : Fault}
    (failed : (typerOn graph settings unfailing budget).answer call = .error fault) :
    graph.FailsBelow call.value fault := by
  induction budget generalizing call with
  | zero =>
      unfold Typer.answer typerOn unfailing at failed
      split at failed <;> cases failed
  | succ budget induction => exact failsBelow_of_step (fun inner innerFailed => induction innerFailed) failed

end Inference

namespace Graph

/-- Typing fails only where the contents of a container inside the value cannot be listed. -/
theorem failsBelow_of_infer {graph : Graph} {settings : Settings} {value : Value} {depth : Int}
    {fault : Fault} (failed : graph.infer settings value depth = .error fault) :
    graph.FailsBelow value fault := by
  rw [← typerOn_infer_eq_infer settings value depth Inference.unfailing (Nat.lt_succ_self _)] at failed
  have first : (Inference.typerOn graph settings Inference.unfailing
      ((graph.containersIn value).ncard + 1)).answer (Call.first value depth) = .error fault := failed
  exact Inference.failsBelow_of_typerOn _ first

theorem failsBelow_of_inferText {graph : Graph} {settings : Settings} {value : Value} {depth : Int}
    {fault : Fault} (failed : graph.inferText settings value depth = .error fault) :
    graph.FailsBelow value fault := by
  rcases Outcome.bind_eq_error_iff.mp failed with inferring | ⟨type, -, impossible⟩
  · exact failsBelow_of_infer inferring
  · cases impossible

/-- Whatever is open around a value, a call for it is answered or fails below the value. -/
theorem answer_cases (graph : Graph) (settings : Settings) (call : Call) :
    (∃ type, (graph.typer settings).answer call = .ok type) ∨
      ∃ fault, (graph.typer settings).answer call = .error fault ∧ graph.FailsBelow call.value fault := by
  cases outcome : (graph.typer settings).answer call with
  | ok type => exact .inl ⟨type, rfl⟩
  | error fault =>
      refine .inr ⟨fault, rfl, ?_⟩
      have enough := Nat.lt_succ_of_le (graph.card_unopened_le call.opened)
      rw [typer, Inference.typer_eq_typerOn,
        Inference.typerOn_answer_eq_of_unopened .exhausted Inference.unfailing _ enough] at outcome
      exact Inference.failsBelow_of_typerOn _ outcome

theorem failsBelow_of_answer {graph : Graph} {settings : Settings} {call : Call} {fault : Fault}
    (failed : (graph.typer settings).answer call = .error fault) : graph.FailsBelow call.value fault := by
  obtain ⟨type, answered⟩ | ⟨other, otherFailed, below⟩ := graph.answer_cases settings call
  · cases answered.symm.trans failed
  · cases otherFailed.symm.trans failed
    exact below

/-- A value has a type or a container whose contents cannot be listed. -/
theorem infer_cases (graph : Graph) (settings : Settings) (value : Value) (depth : Int) :
    (∃ type, graph.infer settings value depth = .ok type) ∨
      ∃ fault, graph.infer settings value depth = .error fault ∧ graph.FailsBelow value fault := by
  cases outcome : graph.infer settings value depth with
  | ok type => exact .inl ⟨type, rfl⟩
  | error fault => exact .inr ⟨fault, rfl, failsBelow_of_infer outcome⟩

end Graph

end SampleTypes
