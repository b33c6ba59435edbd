import SampleTypes.Proofs.Deepening
import SampleTypes.Proofs.Failure
import SampleTypes.Proofs.Hereditary

/-!
# Depths of inferred types

The depth at which a value is typed is a matter of layout: at a greater depth the type is the same and is laid
out that much deeper.  A step passes this on, from the types of the parts to the type of the whole.
-/

namespace SampleTypes

namespace TypeExpr

theorem hereditary_depthsNonnegative (settings : Settings) :
    Hereditary settings (0 ≤ ·) DepthsNonnegative where
  deeper := by
    intro depth below
    omega
  leaf leaf := by
    cases leaf <;> exact trivial
  unknown := trivial
  circular := trivial
  emptyObject := trivial
  array_iff := Iff.rfl
  object below values := ⟨below, propertyDepthsNonnegative_iff.mpr values⟩
  union below each _ := ⟨below, memberDepthsNonnegative_iff.mpr each⟩
  members whole := memberDepthsNonnegative_iff.mp whole.2

theorem Single.deepens {type : TypeExpr} (single : type.Single) (nonnegative : type.DepthsNonnegative) :
    type.Deepens :=
  ⟨single.2, nonnegative⟩

/-- The parts of a single type without its array can be laid out deeper if the type can. -/
theorem Single.deepens_unwrapArray {type : TypeExpr} (single : type.Single)
    (nonnegative : type.DepthsNonnegative) : ∀ part ∈ type.unwrapArray, part.Deepens := by
  intro part member
  exact ⟨(single.unwrapArray.2 part member).2,
    (hereditary_depthsNonnegative {}).unwrapArray nonnegative part member⟩

theorem deepen_leaf (steps : Nat) (leaf : Leaf) : leaf.type.deepen steps = leaf.type := by
  cases leaf <;> rfl

/-- The union of shapes laid out deeper.  It is deeper itself even if it is on a single line, which leaves no
trace in a type. -/
def deepenShapes (steps : Nat) : TypeExpr → TypeExpr
  | .union members depth multiline => .union (deepenMembers steps members) (depth + steps) multiline
  | type => type.deepen steps

theorem spansLines_deepenShapes (steps : Nat) (shapes : TypeExpr) :
    (deepenShapes steps shapes).spansLines = shapes.spansLines := by
  cases shapes with
  | union members depth multiline =>
      rw [deepenShapes, spansLines, spansLines, deepenMembers, anySpansLines_mapDepths]
  | _ => exact spansLines_mapDepths _

theorem variants_deepenShapes (steps : Nat) (shapes : TypeExpr) :
    ArrayUnion.variants (deepenShapes steps shapes) = (ArrayUnion.variants shapes).map (deepen steps) := by
  cases shapes with
  | union members depth multiline => exact deepenMembers_eq_map steps members
  | _ => rfl

/-- A union of shapes is laid out deeper like any type if it is on several lines. -/
theorem deepenShapes_eq_deepen (steps : Nat) {shapes : TypeExpr}
    (severalLines : ∀ members depth multiline, shapes = .union members depth multiline → multiline = true) :
    deepenShapes steps shapes = shapes.deepen steps := by
  cases shapes with
  | union members depth multiline =>
      rw [severalLines members depth multiline rfl]
      rfl
  | _ => rfl

theorem arrayOfArrays_deepen (settings : Settings) (steps : Nat) {types : List TypeExpr}
    (single : ∀ type ∈ types, type.Single) (nonnegative : ∀ type ∈ types, type.DepthsNonnegative) :
    ArrayUnion.arrayOfArrays settings (types.map (deepen steps)) =
      (ArrayUnion.arrayOfArrays settings types).deepen steps := by
  have parts : (types.map (deepen steps)).flatMap unwrapArray =
      (types.flatMap unwrapArray).map (deepen steps) := by
    rw [List.flatMap_map, List.map_flatMap]
    exact congrArg types.flatMap (funext fun type => unwrapArray_mapDepths type)
  have each : ∀ part ∈ types.flatMap unwrapArray, part.Deepens := by
    intro part member
    obtain ⟨type, typeMember, partMember⟩ := List.mem_flatMap.mp member
    exact (single type typeMember).deepens_unwrapArray (nonnegative type typeMember) part partMember
  rw [ArrayUnion.arrayOfArrays, parts, sortedUnion_deepen settings steps each]
  rfl

end TypeExpr

/-- An outcome with the type laid out deeper. -/
def Typed.deepen (steps : Nat) (outcome : Typed TypeExpr) : Typed TypeExpr :=
  outcome.map (TypeExpr.deepen steps)

/-- A typer whose answers at greater depths are its answers laid out deeper. -/
structure Typer.Steady (graph : Graph) (steps : Nat) (typer : Typer) : Prop where
  single {call : Call} {type : TypeExpr} (answer : typer.Answers call type) : type.Single
  nonnegative {call : Call} {type : TypeExpr} (answer : typer.Answers call type)
    (below : 0 ≤ call.depth) : type.DepthsNonnegative
  object {opened : List Address} {depth : Int} {value : Value} {type : TypeExpr}
    (isObject : graph.isObject value = true) (notOpen : value.isOpen opened = false)
    (answer : typer.Answers ⟨false, opened, depth, value⟩ type) :
    type = .emptyObject ∨ type.spansLines = true
  infer_deeper {opened : List Address} {depth : Int} {value : Value} (below : 0 ≤ depth) :
    typer.infer opened (depth + steps) value = Typed.deepen steps (typer.infer opened depth value)
  contribute_deeper {opened : List Address} {depth : Int} {value : Value} (below : 0 ≤ depth) :
    typer.contribute opened (depth + steps) value =
      Typed.deepen steps (typer.contribute opened depth value)

section Steady

variable {graph : Graph} {settings : Settings} {steps : Nat} {typer : Typer} {opened : List Address}
  {depth : Int}

theorem Typer.Steady.deepens (steady : typer.Steady graph steps) {call : Call} {type : TypeExpr}
    (answer : typer.Answers call type) (below : 0 ≤ call.depth) : type.Deepens :=
  (steady.single answer).deepens (steady.nonnegative answer below)

/-- Types that a typer gives to some values at depths that are not negative can be laid out deeper. -/
theorem Typer.Steady.deepens_of_mapM (steady : typer.Steady graph steps) {α : Type} {items : List α}
    {types : List TypeExpr} (call : α → Call) (below : ∀ item, 0 ≤ (call item).depth)
    (success : (items.mapM fun item => typer.answer (call item)) = .ok types) :
    ∀ type ∈ types, type.Deepens := by
  refine each_of_forall₂ (Outcome.mapM_eq_ok_iff.mp success) ?_
  intro item type answer
  exact steady.deepens answer (below item)

/-- What is one level deeper is deeper by as many steps there. -/
theorem Typer.Steady.infer_deeper_succ (steady : typer.Steady graph steps) (below : 0 ≤ depth)
    (value : Value) :
    typer.infer opened (depth + steps + 1) value =
      (typer.infer opened (depth + 1) value).map (TypeExpr.deepen steps) := by
  have same : depth + steps + 1 = depth + 1 + steps := by omega
  rw [same, steady.infer_deeper (by omega), Typed.deepen]

theorem Typer.Steady.contribute_deeper_succ (steady : typer.Steady graph steps) (below : 0 ≤ depth)
    (value : Value) :
    typer.contribute opened (depth + steps + 1) value =
      (typer.contribute opened (depth + 1) value).map (TypeExpr.deepen steps) := by
  have same : depth + steps + 1 = depth + 1 + steps := by omega
  rw [same, steady.contribute_deeper (by omega), Typed.deepen]

namespace Merge

theorem property_deeper (steady : typer.Steady graph steps) (below : 0 ≤ depth)
    (objects : List Described) (key : String) :
    property settings typer opened (depth + steps) objects key =
      (property settings typer opened depth objects key).map (TypeExpr.deepenProperty steps) := by
  unfold property
  rw [contributions_eq_mapM, contributions_eq_mapM]
  apply Outcome.mapM_bind_eq_map (TypeExpr.deepen steps)
  · intro contributor _
    exact steady.contribute_deeper_succ below contributor.2
  · intro types success
    have each : ∀ type ∈ types, type.Deepens :=
      steady.deepens_of_mapM
        (fun contributor : Value × Value => ⟨true, contributor.1.open opened, depth + 1, contributor.2⟩)
        (fun _ => by simp only; omega) success
    rw [TypeExpr.sortedUnion_deepen settings steps each]
    rfl

theorem shapes_deeper (steady : typer.Steady graph steps) (below : 0 ≤ depth) (objects : List Value) :
    shapes graph settings typer opened (depth + steps) objects =
      Typed.deepen steps (shapes graph settings typer opened depth objects) := by
  unfold shapes
  split
  · rfl
  · rw [Typed.deepen, Outcome.map_bind]
    apply Outcome.bind_congr
    intro described _
    dsimp only
    split
    · rfl
    · apply Outcome.mapM_bind_eq_map (TypeExpr.deepenProperty steps)
      · intro key _
        exact property_deeper steady below described key
      · intro properties _
        rw [← TypeExpr.deepenProperties_eq_map]
        rfl

end Merge

namespace ArrayUnion

theorem distinctShapes_deeper (steady : typer.Steady graph steps) (below : 0 ≤ depth)
    (elements : List Value) :
    distinctShapes settings typer opened (depth + steps) elements =
      (distinctShapes settings typer opened depth elements).map (TypeExpr.deepenShapes steps) := by
  have several (shapes : List TypeExpr) :
      TypeExpr.union (shapes.map (TypeExpr.deepen steps)) (depth + steps)
          ((shapes.map (TypeExpr.deepen steps)).any (·.spansLines)) =
        TypeExpr.deepenShapes steps (.union shapes depth (shapes.any (·.spansLines))) := by
    have lines : (shapes.map (TypeExpr.deepen steps)).any (·.spansLines) = shapes.any (·.spansLines) := by
      rw [List.any_map]
      simp only [Function.comp_def, TypeExpr.deepen, TypeExpr.spansLines_mapDepths]
    rw [lines, ← TypeExpr.deepenMembers_eq_map]
    rfl
  cases elements with
  | nil => exact congrArg Except.ok (several [])
  | cons first rest =>
      rw [distinctShapes_cons, distinctShapes_cons]
      apply Outcome.mapM_bind_eq_map (TypeExpr.deepen steps)
      · intro element _
        exact steady.infer_deeper_succ below element
      · intro types success
        have each : ∀ type ∈ types, type.Deepens :=
          steady.deepens_of_mapM (fun element => ⟨false, opened, depth + 1, element⟩)
            (fun _ => by simp only; omega) success
        rw [TypeExpr.distinctByText_deepen settings steps each, List.length_map]
        split
        · rw [steady.infer_deeper below, Typed.deepen]
          cases inferred : typer.infer opened depth first with
          | error fault => rfl
          | ok type =>
              have answer : typer.Answers ⟨false, opened, depth, first⟩ type := inferred
              have single := steady.single answer
              cases type with
              | union members depth multiline => cases single.1
              | _ => rfl
        · exact congrArg Except.ok (several _)

/-- A union of shapes that spans lines is on several lines itself. -/
theorem BuildsShapes.multiline_of_spansLines {typed : Assignment}
    (single : ∀ call type, typed call type → type.Single) {elements : List Value} {shapes : TypeExpr}
    (built : BuildsShapes settings typed opened depth elements shapes) (spansLines : shapes.spansLines = true) :
    ∀ members depth multiline, shapes = .union members depth multiline → multiline = true := by
  rintro members unionDepth multiline rfl
  cases built with
  | one elementTypes agree again => cases (single _ _ again).1
  | several elementTypes differ =>
      rw [TypeExpr.spansLines, TypeExpr.anySpansLines_eq_any, Bool.or_self] at spansLines
      exact spansLines

theorem ofArrays_deeper (steady : typer.Steady graph steps) (below : 0 ≤ depth) {elements : List Value}
    (nonempty : elements ≠ []) :
    ofArrays settings typer opened (depth + steps) elements =
      Typed.deepen steps (ofArrays settings typer opened depth elements) := by
  unfold ofArrays
  cases mode : settings.mode with
  | merge =>
      apply Outcome.mapM_bind_eq_map (TypeExpr.deepen steps)
      · intro element _
        exact steady.infer_deeper_succ below element
      · intro types success
        have answers : List.Forall₂ (fun element type =>
            typer.Answers ⟨false, opened, depth + 1, element⟩ type) elements types :=
          Outcome.mapM_eq_ok_iff.mp success
        rw [TypeExpr.arrayOfArrays_deepen settings steps
          (each_of_forall₂ answers fun _ _ answer => steady.single answer)
          (each_of_forall₂ answers fun _ _ answer => steady.nonnegative answer (by simp only; omega))]
        rfl
  | union =>
      dsimp only
      rw [distinctShapes_deeper steady below, Outcome.bind_map, Typed.deepen, Outcome.map_bind]
      apply Outcome.bind_congr
      intro shapes success
      have built := buildsShapes_of_distinctShapes success
      have single := (built.variants_single (fun _ _ answer => steady.single answer) nonempty).2
      have nonnegative := (TypeExpr.hereditary_depthsNonnegative settings).variants
        (built.hereditary (TypeExpr.hereditary_depthsNonnegative settings)
          (fun _ _ answer => steady.nonnegative answer) below)
      -- A union on a single line does not get into the type, so its depth does not matter.
      rw [TypeExpr.spansLines_deepenShapes]
      split
      · rename_i spansLines
        rw [TypeExpr.deepenShapes_eq_deepen steps
          (built.multiline_of_spansLines (fun _ _ answer => steady.single answer) spansLines)]
        rfl
      · rw [TypeExpr.variants_deepenShapes, TypeExpr.arrayOfArrays_deepen settings steps single nonnegative]
        rfl

/-- Of several shapes of objects one has a property. -/
theorem BuildsShapes.multiline_of_objects {typed : Assignment}
    (single : ∀ call type, typed call type → type.Single) {elements : List Value} (nonempty : elements ≠ [])
    (objects : ∀ element ∈ elements, ∀ depth type, typed ⟨false, opened, depth, element⟩ type →
      type = .emptyObject ∨ type.spansLines = true) {shapes : TypeExpr}
    (built : BuildsShapes settings typed opened depth elements shapes) :
    ∀ members depth multiline, shapes = .union members depth multiline → multiline = true := by
  rintro members unionDepth multiline rfl
  cases built with
  | one elementTypes agree again => cases (single _ _ again).1
  | @several _ types elementTypes differ =>
      have represents := TypeExpr.represents_distinctByText settings types
      have distinct := TypeExpr.pairwise_distinctByText settings types
      have isShape : ∀ shape ∈ TypeExpr.distinctByText settings types,
          shape = .emptyObject ∨ shape.spansLines = true := by
        intro shape member
        obtain ⟨element, elementMember, answer⟩ :=
          elementTypes.exists_left (represents.mem_of_mem shape member)
        exact objects element elementMember _ shape answer
      -- Only one of two different shapes can be that of an object without keys.
      have some := represents.ne_nil (ne_nil_of_forall₂ elementTypes nonempty)
      match shapes : TypeExpr.distinctByText settings types with
      | [] => exact absurd shapes some
      | [shape] =>
          rw [shapes] at differ
          exact absurd rfl differ
      | first :: second :: others =>
          rw [shapes] at distinct isShape
          rw [List.any_eq_true]
          rcases isShape first (by simp) with firstEmpty | firstSpans
          · rcases isShape second (by simp) with secondEmpty | secondSpans
            · have differ := (List.pairwise_cons.mp distinct).1 second (by simp)
              rw [firstEmpty, secondEmpty] at differ
              exact absurd rfl differ
            · exact ⟨second, by simp, secondSpans⟩
          · exact ⟨first, by simp, firstSpans⟩

theorem ofObjects_deeper (steady : typer.Steady graph steps) (below : 0 ≤ depth) {elements : List Value}
    (nonempty : elements ≠ [])
    (fresh : ∀ element ∈ elements, graph.isObject element = true ∧ element.isOpen opened = false) :
    ofObjects graph settings typer opened (depth + steps) elements =
      Typed.deepen steps (ofObjects graph settings typer opened depth elements) := by
  unfold ofObjects
  cases mode : settings.mode with
  | merge =>
      dsimp only
      rw [Merge.shapes_deeper steady below, Typed.deepen, Typed.deepen, Outcome.bind_map,
        Outcome.map_bind]
      rfl
  | union =>
      dsimp only
      rw [distinctShapes_deeper steady below, Outcome.bind_map, Typed.deepen, Outcome.map_bind]
      apply Outcome.bind_congr
      intro shapes success
      have built := buildsShapes_of_distinctShapes success
      have objects : ∀ element ∈ elements, ∀ depth type,
          typer.Answers ⟨false, opened, depth, element⟩ type → type = .emptyObject ∨ type.spansLines = true := by
        intro element member depth type answer
        exact steady.object (fresh element member).1 (fresh element member).2 answer
      rw [TypeExpr.deepenShapes_eq_deepen steps
        (built.multiline_of_objects (fun _ _ answer => steady.single answer) nonempty objects)]
      rfl

theorem ofMixed_deeper (steady : typer.Steady graph steps) (below : 0 ≤ depth) (elements : List Value) :
    ofMixed graph settings typer opened (depth + steps) elements =
      Typed.deepen steps (ofMixed graph settings typer opened depth elements) := by
  unfold ofMixed
  apply Outcome.mapM_bind_eq_map (TypeExpr.deepen steps)
  · intro element _
    split
    · exact steady.contribute_deeper_succ below element
    · exact steady.infer_deeper_succ below element
  · intro types success
    have each : ∀ type ∈ types, type.Deepens := by
      apply steady.deepens_of_mapM
        (fun element => ⟨decide (settings.mode = .merge ∧ graph.isObject element), opened, depth + 1, element⟩)
        (fun _ => by simp only; omega)
      simpa only [Typer.answer, decide_eq_true_eq] using success
    rw [TypeExpr.distinctByText_deepen settings steps each, TypeExpr.unionOf_deepen]
    rfl

theorem ofKind_deeper (steady : typer.Steady graph steps) (below : 0 ≤ depth) {elements : List Value}
    (nonempty : elements ≠ []) :
    ofKind graph settings typer opened (depth + steps) (.ofElements graph opened elements) elements =
      Typed.deepen steps
        (ofKind graph settings typer opened depth (.ofElements graph opened elements) elements) := by
  cases kind : ArrayKind.ofElements graph opened elements with
  | arrays => exact ofArrays_deeper steady below nonempty
  | objects => exact ofObjects_deeper steady below nonempty (ArrayKind.fresh_of_ofElements kind)
  | mixed => exact ofMixed_deeper steady below elements

end ArrayUnion

namespace Inference

theorem object_deeper (steady : typer.Steady graph steps) (below : 0 ≤ depth) (node : Node) :
    object graph settings typer opened (depth + steps) node =
      Typed.deepen steps (object graph settings typer opened depth node) := by
  unfold object
  rw [Typed.deepen, Outcome.map_bind]
  apply Outcome.bind_congr
  intro entries _
  apply Outcome.mapM_bind_eq_map (TypeExpr.deepenProperty steps)
  · intro entry _
    apply Outcome.mapM_bind_eq_map (TypeExpr.deepen steps)
    · intro part _
      exact steady.infer_deeper_succ below part
    · intro types success
      have each : ∀ type ∈ types, type.Deepens :=
        steady.deepens_of_mapM (fun part => ⟨false, opened, depth + 1, part⟩) (fun _ => by simp only; omega)
          success
      rw [TypeExpr.distinctByText_deepen settings steps each, TypeExpr.unionOf_deepen]
      rfl
  · intro properties _
    cases properties with
    | nil => rfl
    | cons first others =>
        rw [← TypeExpr.deepenProperties_eq_map]
        rfl

theorem array_deeper (steady : typer.Steady graph steps) (below : 0 ≤ depth) (node : Node) :
    array graph settings typer opened (depth + steps) node =
      Typed.deepen steps (array graph settings typer opened depth node) := by
  unfold array
  rw [Typed.deepen, Outcome.map_bind]
  apply Outcome.bind_congr
  intro elements _
  split
  · rfl
  · rename_i nonempty
    exact ArrayUnion.ofKind_deeper steady below (by simpa using nonempty)

theorem value_deeper (steady : typer.Steady graph steps) (below : 0 ≤ depth) (target : Value) :
    value graph settings typer opened (depth + steps) target =
      Typed.deepen steps (value graph settings typer opened depth target) := by
  cases target with
  | leaf leaf => exact congrArg Except.ok (TypeExpr.deepen_leaf steps leaf).symm
  | container address =>
      simp only [value]
      cases graph.node? address with
      | none => rfl
      | some node =>
          dsimp only
          by_cases isOpen : address ∈ opened
          · rw [if_pos isOpen, if_pos isOpen]
            rfl
          · rw [if_neg isOpen, if_neg isOpen]
            cases node.isObject with
            | true => exact object_deeper steady below node
            | false => exact array_deeper steady below node

theorem contribution_deeper (steady : typer.Steady graph steps) (below : 0 ≤ depth) (target : Value) :
    contribution graph settings typer opened (depth + steps) target =
      Typed.deepen steps (contribution graph settings typer opened depth target) := by
  cases target with
  | leaf leaf => exact congrArg Except.ok (TypeExpr.deepen_leaf steps leaf).symm
  | container address =>
      simp only [contribution]
      cases graph.node? address with
      | none => rfl
      | some node =>
          dsimp only
          by_cases isOpen : address ∈ opened
          · rw [if_pos isOpen, if_pos isOpen]
            rfl
          · rw [if_neg isOpen, if_neg isOpen]
            cases isMergedArray graph opened node with
            | true =>
                rw [if_pos rfl, if_pos rfl, Merge.shapes_deeper steady below, Typed.deepen, Typed.deepen,
                  Outcome.bind_map, Outcome.map_bind]
                rfl
            | false =>
                rw [if_neg Bool.false_ne_true, if_neg Bool.false_ne_true]
                cases node.isObject with
                | true => exact Merge.shapes_deeper steady below [.container address]
                | false => exact array_deeper steady below node

end Inference

end Steady

namespace Inference

variable {graph : Graph} {settings : Settings}

/-- An object that is not open is typed as one. -/
theorem object_of_answer {budget : Nat} {opened : List Address} {depth : Int} {value : Value}
    {type : TypeExpr} (isObject : graph.isObject value = true) (notOpen : value.isOpen opened = false)
    (answer : (typer graph settings budget).Answers ⟨false, opened, depth, value⟩ type) :
    type = .emptyObject ∨ type.spansLines = true := by
  obtain ⟨address, node, rfl, isNode, nodeIsObject⟩ := Graph.isObject_eq_true_iff.mp isObject
  rw [Value.isOpen_container_eq_false_iff] at notOpen
  refine answer_induction (fun call type => call = ⟨false, opened, depth, .container address⟩ →
    type = .emptyObject ∨ type.spansLines = true) ?_ budget answer rfl
  rintro inner call type built rfl
  cases built with
  | missing isMissing => cases isNode.symm.trans isMissing
  | circular isNode isOpen => exact absurd isOpen notOpen
  | object isNode fresh isObject listing built =>
      split
      · exact .inl rfl
      · exact .inr rfl
  | emptyArray isArrayNode fresh isArray listing =>
      cases isNode.symm.trans isArrayNode
      rw [isArray] at nodeIsObject
      cases nodeIsObject
  | array isArrayNode fresh isArray listing nonempty built =>
      cases isNode.symm.trans isArrayNode
      rw [isArray] at nodeIsObject
      cases nodeIsObject

theorem steady_typer (graph : Graph) (settings : Settings) (steps budget : Nat) :
    (typer graph settings budget).Steady graph steps := by
  induction budget with
  | zero =>
      exact {
        single := single_of_answer
        nonnegative := hereditary_of_answer (TypeExpr.hereditary_depthsNonnegative settings)
        object := object_of_answer
        infer_deeper := fun _ => rfl
        contribute_deeper := fun _ => rfl }
  | succ budget induction =>
      exact {
        single := single_of_answer
        nonnegative := hereditary_of_answer (TypeExpr.hereditary_depthsNonnegative settings)
        object := object_of_answer
        infer_deeper := fun below => value_deeper induction below _
        contribute_deeper := fun below => contribution_deeper induction below _ }

end Inference

/-- At a greater depth the inferred type is the same, laid out that much deeper. -/
theorem Graph.infer_deeper (graph : Graph) (settings : Settings) (value : Value) {depth : Int}
    (below : 0 ≤ depth) (steps : Nat) :
    graph.infer settings value (depth + steps) =
      Typed.deepen steps (graph.infer settings value depth) :=
  (Inference.steady_typer graph settings steps _).infer_deeper below

end SampleTypes
