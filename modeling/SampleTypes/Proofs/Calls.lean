import SampleTypes.Proofs.Reachability
import SampleTypes.Typing.Inference

/-!
# Calls between typings

Typing a value opens at most two containers and leaves the values in them to a typer.  This module names the
calls that are made of the typer and shows that no other answer of it counts: two typers that agree on these
calls type the value alike.  Every such call is made inside containers that were not open before.
-/

namespace SampleTypes

/-- A value to be typed, by itself or as a part of a merged object, with the containers that are open around
it and the depth at which its type is laid out. -/
structure Call where
  merging : Bool
  opened : List Address
  depth : Int
  value : Value

/-- The call with which the typing of a value begins. -/
def Call.first (value : Value) (depth : Int) : Call :=
  ⟨false, [], depth, value⟩

def Typer.answer (typer : Typer) (call : Call) : Typed TypeExpr :=
  if call.merging then typer.contribute call.opened call.depth call.value
  else typer.infer call.opened call.depth call.value

namespace Inference

/-- The typer that opens a container itself and leaves the values in it to another typer. -/
def step (graph : Graph) (settings : Settings) (inner : Typer) : Typer where
  infer := value graph settings inner
  contribute := contribution graph settings inner

theorem typer_succ (graph : Graph) (settings : Settings) (budget : Nat) :
    typer graph settings (budget + 1) = step graph settings (typer graph settings budget) :=
  rfl

end Inference

/-- One call is made while another one is carried out: for a value in its container, or for a value in an
object that is an element of its array. -/
inductive Call.Nests (graph : Graph) (outer : Call) : Call → Prop
  | part {address : Address} {node : Node} {inner : Call}
      (isContainer : outer.value = .container address) (isNode : graph.node? address = some node)
      (fresh : address ∉ outer.opened) (held : inner.value ∈ node.held)
      (opens : inner.opened = address :: outer.opened) (deeper : outer.depth ≤ inner.depth) :
      Nests graph outer inner
  | elementPart {address objectAddress : Address} {node objectNode : Node} {inner : Call}
      (isContainer : outer.value = .container address) (isNode : graph.node? address = some node)
      (fresh : address ∉ outer.opened) (isArray : node.isObject = false)
      (element : .container objectAddress ∈ node.held)
      (isObjectNode : graph.node? objectAddress = some objectNode)
      (isObject : objectNode.isObject = true) (objectFresh : objectAddress ∉ outer.opened)
      (held : inner.value ∈ objectNode.held)
      (opens : inner.opened = objectAddress :: address :: outer.opened)
      (deeper : outer.depth ≤ inner.depth) :
      Nests graph outer inner

/-- A value that is not open inside more containers is not open inside fewer. -/
theorem Value.isOpen_of_isOpen_cons {value : Value} {address : Address} {opened : List Address}
    (notOpen : value.isOpen (address :: opened) = false) : value.isOpen opened = false := by
  cases value with
  | leaf leaf => rfl
  | container other =>
      simp only [Value.isOpen, List.contains_cons, Bool.or_eq_false_iff] at notOpen
      exact notOpen.2

theorem Value.isOpen_nil (value : Value) : value.isOpen [] = false := by
  cases value <;> rfl

theorem Value.isOpen_container_eq_false_iff {address : Address} {opened : List Address} :
    (Value.container address).isOpen opened = false ↔ address ∉ opened := by
  simp [Value.isOpen]

theorem Value.isOpen_cons_eq_false_iff {value : Value} {address : Address} {opened : List Address} :
    value.isOpen (address :: opened) = false ↔
      value ≠ .container address ∧ value.isOpen opened = false := by
  cases value with
  | leaf leaf => simp [Value.isOpen]
  | container other => simp [Value.isOpen]

namespace Graph

variable {graph : Graph}

theorem isObject_eq_true_iff {value : Value} :
    graph.isObject value = true ↔
      ∃ address node, value = .container address ∧ graph.node? address = some node ∧
        node.isObject = true := by
  cases value with
  | leaf leaf => simp [isObject, nodeOf?]
  | container address =>
      cases isNode : graph.node? address with
      | none => simp [isObject, nodeOf?, isNode]
      | some node => simp [isObject, nodeOf?, isNode]

theorem entries_container {address : Address} {node : Node}
    (isNode : graph.node? address = some node) :
    graph.entries (.container address) = graph.entriesOfNode node := by
  simp only [entries, nodeOf?_container isNode]

end Graph

namespace Merge

variable {graph : Graph} {settings : Settings}

/-- Each described object stands for one of the objects and has its entries. -/
theorem forall₂_of_describe {objects : List Value} {described : List Described}
    (success : describe graph objects = .ok described) :
    List.Forall₂ (fun object description => description.object = object ∧
      graph.entries object = .ok description.entries) objects described := by
  refine (Outcome.mapM_eq_ok_iff.mp success).imp ?_
  intro object description describing
  obtain ⟨entries, entriesSuccess, equal⟩ := Outcome.bind_eq_ok_iff.mp describing
  cases equal
  exact ⟨rfl, entriesSuccess⟩

theorem filed_of_mem_valuesUnder {description : Described} {key : String} {value : Value}
    (member : value ∈ description.valuesUnder key) : Filed description.entries key value := by
  unfold Described.valuesUnder at member
  cases found : description.entries.lookup key with
  | none => simp [found] at member
  | some values =>
      rw [found] at member
      exact filed_of_lookup found member

/-- The merged shape depends on the typer only through what the values in the objects contribute. -/
theorem shapes_congr {left right : Typer} {opened : List Address} {depth : Int}
    {objects : List Value}
    (agree : ∀ object ∈ objects, ∀ entries key value, graph.entries object = .ok entries →
      Filed entries key value →
        left.contribute (object.open opened) (depth + 1) value =
          right.contribute (object.open opened) (depth + 1) value) :
    shapes graph settings left opened depth objects =
      shapes graph settings right opened depth objects := by
  have propertyAgree : ∀ described, describe graph objects = .ok described → ∀ key,
      property settings left opened depth described key =
        property settings right opened depth described key := by
    intro described success key
    have contributionsAgree : contributions left opened (depth + 1) described key =
        contributions right opened (depth + 1) described key := by
      unfold contributions
      rw [Outcome.mapM_congr]
      intro description member
      apply Outcome.mapM_congr
      intro value valueMember
      obtain ⟨object, objectMember, rfl, entriesSuccess⟩ :=
        (forall₂_of_describe success).exists_left member
      exact agree _ objectMember _ key value entriesSuccess (filed_of_mem_valuesUnder valueMember)
    unfold property
    rw [contributionsAgree]
  unfold shapes
  split
  · rfl
  · apply Outcome.bind_congr
    intro described success
    simp only [Outcome.mapM_congr fun key _ => propertyAgree described success key]

end Merge

namespace ArrayUnion

variable {graph : Graph} {settings : Settings} {left right : Typer} {opened : List Address}
  {depth : Int} {elements : List Value}

/-- Several distinct types make a union, and a single one is laid out again at the depth of the array. -/
theorem distinctShapes_cons (typer : Typer) (first : Value) (rest : List Value) :
    distinctShapes settings typer opened depth (first :: rest) =
      (first :: rest).mapM (typer.infer opened (depth + 1)) >>= fun types =>
        if (TypeExpr.distinctByText settings types).length = 1 then typer.infer opened depth first
        else .ok (.union (TypeExpr.distinctByText settings types) depth
          ((TypeExpr.distinctByText settings types).any (·.spansLines))) := by
  unfold distinctShapes
  apply Outcome.bind_congr
  intro types _
  generalize TypeExpr.distinctByText settings types = shapes
  match shapes with
  | [] => rfl
  | [_] => rfl
  | _ :: _ :: _ => rfl

theorem distinctShapes_congr
    (agree : ∀ element ∈ elements, ∀ elementDepth, depth ≤ elementDepth →
      left.infer opened elementDepth element = right.infer opened elementDepth element) :
    distinctShapes settings left opened depth elements =
      distinctShapes settings right opened depth elements := by
  unfold distinctShapes
  rw [Outcome.mapM_congr fun element member => agree element member (depth + 1) (by omega)]
  apply Outcome.bind_congr
  intro types _
  split
  · exact agree _ (by simp) depth (Int.le_refl depth)
  · rfl

theorem ofKind_congr
    (agreeInfer : ∀ element ∈ elements, ∀ elementDepth, depth ≤ elementDepth →
      left.infer opened elementDepth element = right.infer opened elementDepth element)
    (agreeObject : ∀ element ∈ elements, graph.isObject element = true →
      left.contribute opened (depth + 1) element = right.contribute opened (depth + 1) element)
    (agreePart : ∀ element ∈ elements, graph.isObject element = true →
      element.isOpen opened = false → ∀ entries key value, graph.entries element = .ok entries →
        Filed entries key value →
          left.contribute (element.open opened) (depth + 1) value =
            right.contribute (element.open opened) (depth + 1) value) :
    ofKind graph settings left opened depth (.ofElements graph opened elements) elements =
      ofKind graph settings right opened depth (.ofElements graph opened elements) elements := by
  have inferAgree : ∀ element ∈ elements,
      left.infer opened (depth + 1) element = right.infer opened (depth + 1) element :=
    fun element member => agreeInfer element member (depth + 1) (by omega)
  unfold ArrayKind.ofElements
  split
  · simp only [ofKind, ofArrays, distinctShapes_congr agreeInfer, Outcome.mapM_congr inferAgree]
  · split
    · rename_i allObjects
      have mergeAgree : Merge.shapes graph settings left opened depth elements =
          Merge.shapes graph settings right opened depth elements := by
        apply Merge.shapes_congr
        intro element member
        have isObject := List.all_eq_true.mp allObjects element member
        simp only [Bool.and_eq_true, Bool.not_eq_true'] at isObject
        exact agreePart element member isObject.1 isObject.2
      simp only [ofKind, ofObjects, distinctShapes_congr agreeInfer, mergeAgree]
    · simp only [ofKind, ofMixed]
      rw [Outcome.mapM_congr]
      intro element member
      split
      · rename_i merged
        exact agreeObject element member merged.2
      · exact inferAgree element member

end ArrayUnion

namespace Inference

variable {graph : Graph} {settings : Settings}

theorem object_congr {left right : Typer} {opened : List Address} {depth : Int} {node : Node}
    (agree : ∀ part ∈ node.held,
      left.infer opened (depth + 1) part = right.infer opened (depth + 1) part) :
    object graph settings left opened depth node = object graph settings right opened depth node := by
  unfold object
  apply Outcome.bind_congr
  intro entries success
  rw [Outcome.mapM_congr]
  intro entry member
  rw [Outcome.mapM_congr]
  intro part partMember
  exact agree part
    ((Graph.mem_held_iff_of_entries success).mpr ⟨entry.1, entry, member, rfl, partMember⟩)

theorem array_congr {left right : Typer} {opened : List Address} {depth : Int} {node : Node}
    (isArray : node.isObject = false)
    (agreeInfer : ∀ element ∈ node.held, ∀ elementDepth, depth ≤ elementDepth →
      left.infer opened elementDepth element = right.infer opened elementDepth element)
    (agreeObject : ∀ element ∈ node.held, graph.isObject element = true →
      left.contribute opened (depth + 1) element = right.contribute opened (depth + 1) element)
    (agreePart : ∀ element ∈ node.held, graph.isObject element = true →
      element.isOpen opened = false → ∀ entries key value, graph.entries element = .ok entries →
        Filed entries key value →
          left.contribute (element.open opened) (depth + 1) value =
            right.contribute (element.open opened) (depth + 1) value) :
    array graph settings left opened depth node = array graph settings right opened depth node := by
  unfold array
  apply Outcome.bind_congr
  intro elements success
  have isHeld : ∀ element ∈ elements, element ∈ node.held := by
    intro element member
    rw [Node.held_of_array isArray]
    exact (Graph.elements_perm_members success).mem_iff.mp member
  rw [ArrayUnion.ofKind_congr
    (fun element member => agreeInfer element (isHeld element member))
    (fun element member => agreeObject element (isHeld element member))
    (fun element member => agreePart element (isHeld element member))]

section Agreement

variable {left right : Typer} {merging : Bool} {opened : List Address} {depth : Int} {address : Address}
  {node : Node}

theorem infer_eq_of_nests
    (agree : ∀ inner, Call.Nests graph ⟨merging, opened, depth, .container address⟩ inner →
      left.answer inner = right.answer inner)
    (isNode : graph.node? address = some node) (fresh : address ∉ opened) {part : Value}
    (held : part ∈ node.held) {partDepth : Int} (deeper : depth ≤ partDepth) :
    left.infer (address :: opened) partDepth part = right.infer (address :: opened) partDepth part :=
  agree ⟨false, address :: opened, partDepth, part⟩ (.part rfl isNode fresh held rfl deeper)

theorem contribute_eq_of_nests
    (agree : ∀ inner, Call.Nests graph ⟨merging, opened, depth, .container address⟩ inner →
      left.answer inner = right.answer inner)
    (isNode : graph.node? address = some node) (fresh : address ∉ opened) {part : Value}
    (held : part ∈ node.held) :
    left.contribute (address :: opened) (depth + 1) part =
      right.contribute (address :: opened) (depth + 1) part :=
  agree ⟨true, address :: opened, depth + 1, part⟩
    (.part rfl isNode fresh held rfl (by simp only; omega))

/-- The values in an object that is an element of the array are contributed alike. -/
theorem contribute_eq_of_nests_element
    (agree : ∀ inner, Call.Nests graph ⟨merging, opened, depth, .container address⟩ inner →
      left.answer inner = right.answer inner)
    (isNode : graph.node? address = some node) (fresh : address ∉ opened)
    (isArray : node.isObject = false) {element : Value} (held : element ∈ node.held)
    (isObject : graph.isObject element = true) (notOpen : element.isOpen opened = false)
    {entries : List (String × List Value)} {key : String} {part : Value}
    (listing : graph.entries element = .ok entries) (filed : Filed entries key part) :
    left.contribute (element.open (address :: opened)) (depth + 1) part =
      right.contribute (element.open (address :: opened)) (depth + 1) part := by
  obtain ⟨objectAddress, objectNode, rfl, isObjectNode, isObject⟩ :=
    Graph.isObject_eq_true_iff.mp isObject
  rw [Graph.entries_container isObjectNode] at listing
  exact agree ⟨true, objectAddress :: address :: opened, depth + 1, part⟩
    (.elementPart rfl isNode fresh isArray held isObjectNode isObject
      (Value.isOpen_container_eq_false_iff.mp notOpen)
      ((Graph.mem_held_iff_of_entries listing).mpr ⟨key, filed⟩) rfl (by simp only; omega))

theorem array_eq_of_nests
    (agree : ∀ inner, Call.Nests graph ⟨merging, opened, depth, .container address⟩ inner →
      left.answer inner = right.answer inner)
    (isNode : graph.node? address = some node) (fresh : address ∉ opened)
    (isArray : node.isObject = false) :
    array graph settings left (address :: opened) depth node =
      array graph settings right (address :: opened) depth node := by
  apply array_congr isArray
  · intro element held elementDepth deeper
    exact infer_eq_of_nests agree isNode fresh held deeper
  · intro element held _
    exact contribute_eq_of_nests agree isNode fresh held
  · intro element held isObject notOpen entries key part listing filed
    exact contribute_eq_of_nests_element agree isNode fresh isArray held isObject
      (Value.isOpen_of_isOpen_cons notOpen) listing filed

theorem object_eq_of_nests
    (agree : ∀ inner, Call.Nests graph ⟨merging, opened, depth, .container address⟩ inner →
      left.answer inner = right.answer inner)
    (isNode : graph.node? address = some node) (fresh : address ∉ opened) :
    object graph settings left (address :: opened) depth node =
      object graph settings right (address :: opened) depth node := by
  apply object_congr
  intro part held
  exact infer_eq_of_nests agree isNode fresh held (by omega)

theorem mergedArray_eq_of_nests
    (agree : ∀ inner, Call.Nests graph ⟨merging, opened, depth, .container address⟩ inner →
      left.answer inner = right.answer inner)
    (isNode : graph.node? address = some node) (fresh : address ∉ opened)
    (isMerged : isMergedArray graph opened node = true) :
    Merge.shapes graph settings left (address :: opened) depth node.members =
      Merge.shapes graph settings right (address :: opened) depth node.members := by
  simp only [isMergedArray, Bool.and_eq_true, Bool.not_eq_true', List.all_eq_true] at isMerged
  obtain ⟨⟨isArray, -⟩, allObjects⟩ := isMerged
  apply Merge.shapes_congr
  intro element member entries key part listing filed
  obtain ⟨isObject, notOpen⟩ := allObjects element member
  rw [← Node.held_of_array isArray] at member
  exact contribute_eq_of_nests_element agree isNode fresh isArray member isObject notOpen listing filed

theorem mergedObject_eq_of_nests
    (agree : ∀ inner, Call.Nests graph ⟨merging, opened, depth, .container address⟩ inner →
      left.answer inner = right.answer inner)
    (isNode : graph.node? address = some node) (fresh : address ∉ opened) :
    Merge.shapes graph settings left opened depth [.container address] =
      Merge.shapes graph settings right opened depth [.container address] := by
  apply Merge.shapes_congr
  intro object member entries key part listing filed
  obtain rfl := List.mem_singleton.mp member
  rw [Graph.entries_container isNode] at listing
  exact contribute_eq_of_nests agree isNode fresh
    ((Graph.mem_held_iff_of_entries listing).mpr ⟨key, filed⟩)

end Agreement

/-- Typing one value depends on the typer only through its answers to the calls that are made. -/
theorem step_answer_congr {left right : Typer} {outer : Call}
    (agree : ∀ inner, outer.Nests graph inner → left.answer inner = right.answer inner) :
    (step graph settings left).answer outer = (step graph settings right).answer outer := by
  obtain ⟨merging, opened, depth, target⟩ := outer
  cases target with
  | leaf leaf => cases merging <;> rfl
  | container address =>
      cases isNode : graph.node? address with
      | none => cases merging <;> simp [Typer.answer, step, value, contribution, isNode]
      | some node =>
          by_cases isOpen : address ∈ opened
          · cases merging <;> simp [Typer.answer, step, value, contribution, isNode, isOpen]
          · cases merging with
            | false =>
                simp only [Typer.answer, step, value, isNode, if_neg isOpen, Bool.false_eq_true,
                  if_false]
                split
                · exact object_eq_of_nests agree isNode isOpen
                · rename_i isArray
                  exact array_eq_of_nests agree isNode isOpen (by simpa using isArray)
            | true =>
                simp only [Typer.answer, step, contribution, isNode, if_neg isOpen, if_true]
                split
                · rename_i isMerged
                  rw [mergedArray_eq_of_nests agree isNode isOpen isMerged]
                · split
                  · exact mergedObject_eq_of_nests agree isNode isOpen
                  · rename_i isArray
                    exact array_eq_of_nests agree isNode isOpen (by simpa using isArray)

end Inference

end SampleTypes
