import Mathlib.Tactic.IntervalCases
import SampleTypes.Proofs.Classification
import SampleTypes.Proofs.InferredDepths
import SampleTypes.Proofs.Interchange

/-!
# Where both modes agree

The mode decides about the objects inside arrays and nothing else.  Arrays without objects get types that are
flat: nothing in them is laid out on several lines, so their types are the same at every depth and are told
apart by their texts.  Keeping the shapes of such arrays apart and unwrapping all of them at once then come to
the same.
-/

namespace SampleTypes

namespace TypeExpr

section Mode

variable (settings : Settings) (mode : Mode)

mutual

/-- The text of a type does not depend on the mode. -/
theorem render_withMode (type : TypeExpr) : type.render { settings with mode := mode } = type.render settings := by
  cases type with
  | primitive name => rfl
  | callable => rfl
  | circular => rfl
  | record value => rw [render, render, render_withMode value]
  | array element =>
      rw [render, render, render_withMode element]
      rfl
  | object properties depth =>
      rw [render, render, renderProperties_withMode properties]
      rfl
  | union members depth multiline =>
      rw [render, render, renderMembers_withMode members]
      rfl

theorem renderMembers_withMode (members : List TypeExpr) :
    renderMembers { settings with mode := mode } members = renderMembers settings members := by
  cases members with
  | nil => rfl
  | cons member members => rw [renderMembers, renderMembers, render_withMode member, renderMembers_withMode members]

theorem renderProperties_withMode (properties : List (Property TypeExpr)) :
    renderProperties { settings with mode := mode } properties = renderProperties settings properties := by
  cases properties with
  | nil => rfl
  | cons property properties =>
      obtain ⟨key, value, optional⟩ := property
      rw [renderProperties, renderProperties, render_withMode value, renderProperties_withMode properties]

end

end Mode

section SameText

variable {apart settings : Settings} (sameText : render apart = render settings)
include sameText

theorem distinctByText_eq_of_sameText (types : List TypeExpr) :
    distinctByText apart types = distinctByText settings types := by
  simp only [distinctByText, sameText]

theorem arrayOfArrays_eq_of_sameText (types : List TypeExpr) :
    ArrayUnion.arrayOfArrays apart types = ArrayUnion.arrayOfArrays settings types := by
  simp only [ArrayUnion.arrayOfArrays, sortedUnion, sameText]

end SameText

mutual

/-- Whether a type has no object in it and no union but on a single line. -/
def Flat : TypeExpr → Prop
  | .primitive _ | .callable | .circular => True
  | .record value => value.Flat
  | .array element => element.Flat
  | .object _ _ => False
  | .union members depth multiline => (depth = 0 ∧ multiline = false) ∧ FlatMembers members

def FlatMembers : List TypeExpr → Prop
  | [] => True
  | member :: members => member.Flat ∧ FlatMembers members

end

theorem flatMembers_iff {members : List TypeExpr} : FlatMembers members ↔ ∀ member ∈ members, member.Flat := by
  induction members with
  | nil => simp [FlatMembers]
  | cons member members induction => simp [FlatMembers, induction]

section Flat

variable {onLines onOneLine : Int → Int} {settings : Settings} {types : List TypeExpr}

mutual

/-- A flat type has no depths that matter. -/
theorem Flat.mapDepths_eq (fixed : onOneLine 0 = 0) {type : TypeExpr} (flat : type.Flat) :
    type.mapDepths onLines onOneLine = type := by
  cases type with
  | primitive name => rfl
  | callable => rfl
  | circular => rfl
  | record value =>
      have flatValue : value.Flat := flat
      rw [mapDepths, flatValue.mapDepths_eq fixed]
  | array element =>
      have flatElement : element.Flat := flat
      rw [mapDepths, flatElement.mapDepths_eq fixed]
  | object properties depth => exact flat.elim
  | union members depth multiline =>
      obtain ⟨⟨rfl, rfl⟩, flatMembers⟩ := flat
      rw [mapDepths, FlatMembers.mapDepths_eq fixed flatMembers, if_neg Bool.false_ne_true, fixed]

theorem FlatMembers.mapDepths_eq (fixed : onOneLine 0 = 0) {members : List TypeExpr} (flat : FlatMembers members) :
    mapDepthsMembers onLines onOneLine members = members := by
  cases members with
  | nil => rfl
  | cons member members =>
      rw [mapDepthsMembers, Flat.mapDepths_eq fixed flat.1, FlatMembers.mapDepths_eq fixed flat.2]

end

mutual

theorem Flat.spansLines_eq_false {type : TypeExpr} (flat : type.Flat) : type.spansLines = false := by
  cases type with
  | primitive name => rfl
  | callable => rfl
  | circular => rfl
  | record value => rfl
  | array element =>
      have flatElement : element.Flat := flat
      exact flatElement.spansLines_eq_false
  | object properties depth => exact flat.elim
  | union members depth multiline =>
      rw [spansLines, flat.1.2, FlatMembers.anySpansLines_eq_false flat.2]
      rfl

theorem FlatMembers.anySpansLines_eq_false {members : List TypeExpr} (flat : FlatMembers members) :
    anySpansLines members = false := by
  cases members with
  | nil => rfl
  | cons member members =>
      rw [anySpansLines, Flat.spansLines_eq_false flat.1, FlatMembers.anySpansLines_eq_false flat.2]
      rfl

end

theorem flat_leaf (leaf : Leaf) : leaf.type.Flat := by
  cases leaf with
  | integer value kind =>
      rw [Leaf.type]
      split <;> trivial
  | _ => trivial

theorem flat_unionOf (flat : ∀ type ∈ types, type.Flat) : (unionOf types).Flat := by
  obtain ⟨only, rfl, same⟩ | ⟨-, same⟩ := unionOf_cases types 0 false
  · rw [same]
    exact flat only List.mem_cons_self
  · rw [same]
    exact ⟨⟨rfl, rfl⟩, flatMembers_iff.mpr flat⟩

theorem flat_unionOf_distinctByText (flat : ∀ type ∈ types, type.Flat) :
    (unionOf (distinctByText settings types)).Flat :=
  flat_unionOf fun type member => flat type ((represents_distinctByText settings types).mem_of_mem type member)

theorem flat_sortedUnion (flat : ∀ type ∈ types, type.Flat) : (sortedUnion settings types).Flat :=
  flat_unionOf fun type member => flat type ((represents_sortedByText settings types).mem_of_mem type member)

theorem Flat.unwrapArray {type : TypeExpr} (flat : type.Flat) : ∀ part ∈ type.unwrapArray, part.Flat := by
  unfold TypeExpr.unwrapArray
  split
  · exact flatMembers_iff.mp flat.2
  · intro part member
    rw [List.mem_singleton.mp member]
    exact flat
  · intro part member
    rw [List.mem_singleton.mp member]
    exact flat

theorem flat_flatMap_unwrapArray (flat : ∀ type ∈ types, type.Flat) :
    ∀ part ∈ types.flatMap TypeExpr.unwrapArray, part.Flat := by
  intro part member
  obtain ⟨type, typeMember, partMember⟩ := List.mem_flatMap.mp member
  exact (flat type typeMember).unwrapArray part partMember

theorem flat_arrayOfArrays (flat : ∀ type ∈ types, type.Flat) : (ArrayUnion.arrayOfArrays settings types).Flat :=
  flat_sortedUnion (flat_flatMap_unwrapArray flat)

/-- Flat types are told apart by their texts. -/
theorem toldApart_of_flat (flat : ∀ type ∈ types, type.Flat) (regular : ∀ type ∈ types, type.Regular) :
    ToldApart settings types := by
  intro left leftMember right rightMember sameText
  have alike := normal_eq_of_render_eq settings (regular left leftMember) (regular right rightMember) sameText
  rwa [normal, normal, (flat left leftMember).mapDepths_eq rfl, (flat right rightMember).mapDepths_eq rfl] at alike

/-- An array of arrays with flat types depends only on which types there are. -/
theorem arrayOfArrays_eq_of_mem_iff {others : List TypeExpr} (flat : ∀ type ∈ types, type.Flat)
    (single : ∀ type ∈ types, type.Single) (same : ∀ type, type ∈ types ↔ type ∈ others) :
    ArrayUnion.arrayOfArrays settings types = ArrayUnion.arrayOfArrays settings others := by
  have regular : ∀ part ∈ types.flatMap TypeExpr.unwrapArray, part.Regular :=
    fun part member => (single_flatMap_unwrapArray single part member).2
  have toldApart : ToldApart settings (types.flatMap TypeExpr.unwrapArray) :=
    toldApart_of_flat (flat_flatMap_unwrapArray flat) regular
  have sameParts (part : TypeExpr) :
      part ∈ types.flatMap TypeExpr.unwrapArray ↔ part ∈ others.flatMap TypeExpr.unwrapArray := by
    simp only [List.mem_flatMap, same]
  rw [ArrayUnion.arrayOfArrays, toldApart.sortedUnion_eq sameParts, ArrayUnion.arrayOfArrays]

end Flat

end TypeExpr

namespace Graph

variable {graph : Graph} {value : Value}

/-- A value that is no object and has no object inside. -/
def ObjectFree (graph : Graph) (value : Value) : Prop :=
  ∀ part, graph.Reaches value part → graph.isObject part = false

/-- A value in which no object is inside an array. -/
def ArraysObjectFree (graph : Graph) (value : Value) : Prop :=
  ∀ array, graph.Reaches value array → graph.isArray array = true → graph.ObjectFree array

theorem ObjectFree.of_held {address : Address} {node : Node} {part : Value}
    (objectFree : graph.ObjectFree (.container address)) (isNode : graph.node? address = some node)
    (held : part ∈ node.held) : graph.ObjectFree part :=
  fun _ reached => objectFree _ (reached.head ⟨node, isNode, held⟩)

theorem ObjectFree.not_isObject {address : Address} {node : Node} (objectFree : graph.ObjectFree (.container address))
    (isNode : graph.node? address = some node) : node.isObject = false := by
  have noObject := objectFree _ .refl
  rwa [isObject, nodeOf?_container isNode] at noObject

theorem ArraysObjectFree.of_held {address : Address} {node : Node} {part : Value}
    (arrays : graph.ArraysObjectFree (.container address)) (isNode : graph.node? address = some node)
    (held : part ∈ node.held) : graph.ArraysObjectFree part :=
  fun _ reached => arrays _ (reached.head ⟨node, isNode, held⟩)

theorem ArraysObjectFree.objectFree {address : Address} {node : Node}
    (arrays : graph.ArraysObjectFree (.container address)) (isNode : graph.node? address = some node)
    (isArray : node.isObject = false) : graph.ObjectFree (.container address) := by
  apply arrays _ .refl
  simp [Graph.isArray, isNode, isArray]

/-- Where no array holds an object, none is inside an array however deep. -/
theorem arraysObjectFree_of_held
    (noObjects : ∀ address node, graph.node? address = some node → node.isObject = false →
      ∀ part ∈ node.held, graph.isObject part = false) (value : Value) : graph.ArraysObjectFree value := by
  intro array _ isArray part reached
  induction reached with
  | refl => exact not_isObject_of_isArray isArray
  | @tail whole part _ holds induction =>
      obtain ⟨node, isNode, held⟩ := holds
      cases whole with
      | leaf leaf => cases isNode
      | container address =>
          rw [isObject, isNode] at induction
          exact noObjects address node isNode induction part held

end Graph

section Arrays

variable {graph : Graph} {apart settings : Settings} {opened : List Address} {depth : Int} {elements : List Value}

theorem ArrayKind.ofElements_ne_objects (nonempty : elements ≠ [])
    (objectFree : ∀ element ∈ elements, graph.ObjectFree element) :
    ArrayKind.ofElements graph opened elements ≠ .objects := by
  intro isObjects
  obtain ⟨element, member⟩ := List.exists_mem_of_ne_nil elements nonempty
  have isObject := (ArrayKind.fresh_of_ofElements isObjects element member).1
  rw [objectFree element member element .refl] at isObject
  cases isObject

namespace Inference

/-- Where objects are merged, a value without objects is typed flat. -/
theorem flat_of_answer (merging : settings.mode = .merge) {budget : Nat} {value : Value} {type : TypeExpr}
    (answer : (typer graph settings budget).Answers ⟨false, opened, depth, value⟩ type)
    (objectFree : graph.ObjectFree value) : type.Flat := by
  refine answer_induction (fun call type => call.merging = false → graph.ObjectFree call.value → type.Flat) ?_ budget
    answer rfl objectFree
  rintro budget ⟨merged, opened, depth, value⟩ type built rfl objectFree
  cases built with
  | leaf _ _ _ leaf => exact TypeExpr.flat_leaf leaf
  | missing isMissing => trivial
  | circular isNode isOpen => trivial
  | object isNode fresh isObject => cases isObject.symm.trans (objectFree.not_isObject isNode)
  | emptyArray isNode fresh isArray listing => trivial
  | @array _ _ _ address node elements _ isNode fresh isArray listing nonempty built =>
      have elementsFree (element : Value) (member : element ∈ elements) : graph.ObjectFree element :=
        objectFree.of_held isNode
          (node.mem_held_of_perm isArray (Graph.elements_perm_members listing) member)
      have isKind : ArrayKind.ofElements graph (address :: opened) elements ≠ .objects :=
        ArrayKind.ofElements_ne_objects nonempty elementsFree
      generalize ArrayKind.ofElements graph (address :: opened) elements = kind at built isKind
      cases built with
      | arrays _ elementTypes =>
          apply TypeExpr.flat_arrayOfArrays
          intro type member
          obtain ⟨element, elementMember, -, flat⟩ := elementTypes.exists_left member
          exact flat rfl (elementsFree element elementMember)
      | arrayShapes uniting | flatArrayShapes uniting => cases merging.symm.trans uniting
      | objects | objectShapes => exact absurd rfl isKind
      | mixed elementTypes =>
          refine TypeExpr.flat_unionOf_distinctByText fun type member => ?_
          obtain ⟨element, elementMember, -, flat⟩ := elementTypes.exists_left member
          have noObject := elementsFree element elementMember element .refl
          exact flat (by simp [noObject]) (elementsFree element elementMember)

/-- Where objects are merged, a value without objects has the same type one level deeper. -/
theorem infer_succ_of_objectFree (merging : settings.mode = .merge) (budget : Nat) {value : Value} (below : 0 ≤ depth)
    (objectFree : graph.ObjectFree value) :
    (typer graph settings budget).infer opened (depth + 1) value =
      (typer graph settings budget).infer opened depth value := by
  refine ((steady_typer graph settings 1 budget).infer_deeper below).trans ?_
  cases outcome : (typer graph settings budget).infer opened depth value with
  | error fault => rfl
  | ok type =>
      have flat := flat_of_answer merging outcome objectFree
      exact congrArg Except.ok (flat.mapDepths_eq rfl)

end Inference

variable (uniting : apart.mode = .union) (merging : settings.mode = .merge)
  (sameText : TypeExpr.render apart = TypeExpr.render settings)
include uniting merging sameText

/-- The distinct types of arrays that are typed flat, and the same at every depth, become the array of arrays that all
their types become. -/
theorem ArrayUnion.ofArrays_modes {typer : Typer}
    (typed : ∀ element ∈ elements, ∀ type, typer.infer opened (depth + 1) element = .ok type → type.Flat ∧ type.Single)
    (level : ∀ element ∈ elements, typer.infer opened (depth + 1) element = typer.infer opened depth element) :
    ofArrays apart typer opened depth elements = ofArrays settings typer opened depth elements := by
  simp only [ofArrays, uniting, merging, distinctShapes, bind_assoc, TypeExpr.distinctByText_eq_of_sameText sameText,
    TypeExpr.arrayOfArrays_eq_of_sameText sameText]
  apply Outcome.bind_congr
  intro types success
  have elementTypes := Outcome.mapM_eq_ok_iff.mp success
  have each (type : TypeExpr) (member : type ∈ types) : type.Flat ∧ type.Single := by
    obtain ⟨element, elementMember, elementTyped⟩ := elementTypes.exists_left member
    exact typed element elementMember type elementTyped
  have toldApart : TypeExpr.ToldApart settings types :=
    TypeExpr.toldApart_of_flat (fun type member => (each type member).1) fun type member => (each type member).2.2
  have sameTypes {others : List TypeExpr} (same : ∀ type, type ∈ types ↔ type ∈ others) :
      arrayOfArrays settings types = arrayOfArrays settings others :=
    TypeExpr.arrayOfArrays_eq_of_mem_iff (fun type member => (each type member).1)
      (fun type member => (each type member).2) same
  split
  · rename_i first others shape agree
    cases elementTypes with
    | @cons _ firstType _ otherTypes firstTyped othersTyped =>
        obtain ⟨firstFlat, firstSingle⟩ := each firstType List.mem_cons_self
        have onlyFirst (type : TypeExpr) : type ∈ firstType :: otherTypes ↔ type ∈ [firstType] := by
          have isShape (type : TypeExpr) : type ∈ firstType :: otherTypes ↔ type = shape := by
            rw [← toldApart.mem_distinctByText_iff, agree, List.mem_singleton]
          rw [isShape, List.mem_singleton, (isShape firstType).mp List.mem_cons_self]
        rw [← level first List.mem_cons_self, firstTyped, sameTypes onlyFirst]
        change (if firstType.spansLines then _ else _) = _
        rw [firstFlat.spansLines_eq_false, if_neg Bool.false_ne_true, TypeExpr.variants_eq_singleton firstSingle.1]
  · have flatShapes : (TypeExpr.distinctByText settings types).any (·.spansLines) = false := by
      rw [List.any_eq_false]
      intro shape member
      rw [(each shape (toldApart.mem_distinctByText_iff.mp member)).1.spansLines_eq_false]
      exact Bool.false_ne_true
    have oneLine : (TypeExpr.union (TypeExpr.distinctByText settings types) depth false).spansLines = false := by
      rw [TypeExpr.spansLines, TypeExpr.anySpansLines_eq_any, flatShapes]
      rfl
    rw [sameTypes fun type => toldApart.mem_distinctByText_iff.symm, flatShapes]
    change (if TypeExpr.spansLines _ then _ else _) = _
    rw [oneLine, if_neg Bool.false_ne_true]
    rfl

namespace Inference

variable {budget : Nat} {node : Node}

/-- A step types an array without objects alike in both modes if its elements are typed alike. -/
theorem array_modes (below : 0 ≤ depth) (isArray : node.isObject = false)
    (objectFree : ∀ element ∈ node.held, graph.ObjectFree element)
    (agree : ∀ element ∈ node.held, ∀ elementDepth, 0 ≤ elementDepth →
      (typer graph apart budget).infer opened elementDepth element =
        (typer graph settings budget).infer opened elementDepth element) :
    array graph apart (typer graph apart budget) opened depth node =
      array graph settings (typer graph settings budget) opened depth node := by
  unfold array
  apply Outcome.bind_congr
  intro elements listing
  split
  · rfl
  · rename_i nonempty
    have held (element : Value) (member : element ∈ elements) : element ∈ node.held :=
      node.mem_held_of_perm isArray (Graph.elements_perm_members listing) member
    have elementsFree (element : Value) (member : element ∈ elements) : graph.ObjectFree element :=
      objectFree element (held element member)
    have isKind : ArrayKind.ofElements graph opened elements ≠ .objects :=
      ArrayKind.ofElements_ne_objects (by simpa using nonempty) elementsFree
    generalize ArrayKind.ofElements graph opened elements = kind at isKind
    cases kind with
    | arrays =>
        have sameShapes : ArrayUnion.distinctShapes apart (typer graph apart budget) opened depth elements =
            ArrayUnion.distinctShapes apart (typer graph settings budget) opened depth elements := by
          apply ArrayUnion.distinctShapes_congr
          intro element member elementDepth deeper
          exact agree element (held element member) elementDepth (by omega)
        have sameTyper : ArrayUnion.ofArrays apart (typer graph apart budget) opened depth elements =
            ArrayUnion.ofArrays apart (typer graph settings budget) opened depth elements := by
          simp only [ArrayUnion.ofArrays, uniting, sameShapes]
        refine sameTyper.trans (ArrayUnion.ofArrays_modes uniting merging sameText ?_ ?_)
        · intro element member type inferred
          have answer : (typer graph settings budget).Answers ⟨false, opened, depth + 1, element⟩ type := inferred
          exact ⟨flat_of_answer merging answer (elementsFree element member), single_of_answer answer⟩
        · intro element member
          exact infer_succ_of_objectFree merging budget below (elementsFree element member)
    | objects => exact absurd rfl isKind
    | mixed =>
        simp only [ArrayUnion.ofKind, ArrayUnion.ofMixed, TypeExpr.distinctByText_eq_of_sameText sameText]
        rw [Outcome.mapM_congr]
        intro element member
        have noObject := elementsFree element member element .refl
        simpa [noObject] using agree element (held element member) (depth + 1) (by omega)

omit uniting merging in
theorem object_modes
    (agree : ∀ part ∈ node.held, (typer graph apart budget).infer opened (depth + 1) part =
      (typer graph settings budget).infer opened (depth + 1) part) :
    object graph apart (typer graph apart budget) opened depth node =
      object graph settings (typer graph settings budget) opened depth node := by
  rw [object_congr agree]
  simp only [object, TypeExpr.distinctByText_eq_of_sameText sameText]

/-- Both modes type a value alike if no object is inside an array in it. -/
theorem infer_modes (budget : Nat) {value : Value} (below : 0 ≤ depth) (arrays : graph.ArraysObjectFree value) :
    (typer graph apart budget).infer opened depth value = (typer graph settings budget).infer opened depth value := by
  induction budget generalizing opened depth value with
  | zero => rfl
  | succ budget induction =>
      rw [typer_succ, typer_succ]
      change Inference.value graph apart _ opened depth value = Inference.value graph settings _ opened depth value
      cases value with
      | leaf leaf => simp only [Inference.value]
      | container address =>
          cases isNode : graph.node? address with
          | none => simp only [Inference.value, isNode]
          | some node =>
              simp only [Inference.value, isNode]
              split
              · rfl
              · split
                · apply object_modes sameText
                  intro part held
                  exact induction (by omega) (arrays.of_held isNode held)
                · rename_i isArray
                  replace isArray : node.isObject = false := by simpa using isArray
                  have objectFree := arrays.objectFree isNode isArray
                  apply array_modes uniting merging sameText below isArray
                  · intro element held
                    exact objectFree.of_held isNode held
                  · intro element held elementDepth elementBelow
                    exact induction elementBelow (arrays.of_held isNode held)

end Inference

end Arrays

namespace Graph

/-- The mode matters only for objects inside arrays: without these both modes give a value the same type, or refuse it
for the same reason. -/
theorem infer_mode_irrelevant (graph : Graph) (settings : Settings) (value : Value) {depth : Int} (below : 0 ≤ depth)
    (arrays : graph.ArraysObjectFree value) :
    (∃ type, graph.infer { settings with mode := .union } value depth = .ok type ∧
        graph.infer { settings with mode := .merge } value depth = .ok type) ∨
      ∃ fault, graph.infer { settings with mode := .union } value depth = .error fault ∧
        graph.infer { settings with mode := .merge } value depth = .error fault ∧ graph.FailsBelow value fault := by
  have sameText :
      TypeExpr.render { settings with mode := .union } = TypeExpr.render { settings with mode := .merge } := by
    funext type
    rw [TypeExpr.render_withMode settings .union, TypeExpr.render_withMode settings .merge]
  have agree : graph.infer { settings with mode := .union } value depth =
      graph.infer { settings with mode := .merge } value depth := Inference.infer_modes rfl rfl sameText _ below arrays
  rw [agree]
  obtain ⟨type, inferred⟩ | ⟨fault, failed, failsBelow⟩ :=
    infer_cases graph { settings with mode := .merge } value depth
  · exact .inl ⟨type, inferred, inferred⟩
  · exact .inr ⟨fault, failed, failed, failsBelow⟩

/-- An object that contains itself, with an array that contains itself among arrays of other depths. -/
def knots : Graph :=
  ⟨#[.mapping .plain [(.leaf (.text "self"), .container 0), (.leaf (.text "rows"), .container 1)],
    .sequence .list [.container 1, .container 2, .container 3],
    .sequence .list [.leaf (.text "cell"), .leaf (.integer 1)],
    .sequence .list [.container 2, .container 2]]⟩

theorem infer_mode_irrelevant_knots :
    knots.ArraysObjectFree (.container 0) ∧ ∃ type, knots.infer { mode := .union } (.container 0) 0 = .ok type ∧
      knots.infer { mode := .merge } (.container 0) 0 = .ok type := by
  have arrays : knots.ArraysObjectFree (.container 0) := by
    apply arraysObjectFree_of_held
    intro address node isNode isArray
    have inBounds := address_lt_size isNode
    change address < 4 at inBounds
    interval_cases address <;> cases isNode
    · cases isArray
    all_goals decide
  refine ⟨arrays, ?_⟩
  obtain same | ⟨fault, failed, -⟩ := infer_mode_irrelevant knots {} (.container 0) (Int.le_refl 0) arrays
  · exact same
  · have typed : (knots.infer { mode := .union } (.container 0) 0).isOk = true := by decide +kernel
    rw [failed] at typed
    cases typed

end Graph

end SampleTypes
