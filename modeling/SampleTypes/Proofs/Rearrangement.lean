import SampleTypes.Proofs.InferredDepths
import SampleTypes.Proofs.MergedShapes

/-!
# Elements in another order

The order of the elements of an array is seen in its type as the order of the members of one union at most, and an
element that comes up again is not seen at all.  Whether elements share one type is found out one level below the
array, and the type is then laid out at the level of the array itself: that makes no difference, since types with one
text at one level have one text at every level.
-/

namespace SampleTypes

namespace TypeExpr

variable {settings : Settings} {left right : TypeExpr} {types others : List TypeExpr}

/-- Two types are alike, or they are unions of which the members are alike in some order. -/
inductive AlikeUpToOrder (settings : Settings) : TypeExpr → TypeExpr → Prop
  | alike {left right : TypeExpr} (alike : left.Alike settings right) : AlikeUpToOrder settings left right
  | reordered {members others : List TypeExpr} (depth : Int) (multiline : Bool)
      (perm : (members.map (normal settings)).Perm (others.map (normal settings))) :
      AlikeUpToOrder settings (.union members depth multiline) (.union others depth multiline)

theorem any_spansLines_of_perm (perm : (types.map (normal settings)).Perm (others.map (normal settings))) :
    types.any (·.spansLines) = others.any (·.spansLines) := by
  rw [← any_spansLines_normal settings types, perm.any_eq, any_spansLines_normal]

theorem AlikeUpToOrder.spansLines_eq (alike : left.AlikeUpToOrder settings right) :
    left.spansLines = right.spansLines := by
  cases alike with
  | alike alike => exact alike.spansLines_eq
  | reordered depth multiline perm =>
      rw [spansLines, spansLines, anySpansLines_eq_any, anySpansLines_eq_any]
      exact congrArg (multiline || ·) (any_spansLines_of_perm perm)

theorem AlikeUpToOrder.mem_variants_iff (alike : left.AlikeUpToOrder settings right) (form : TypeExpr) :
    form ∈ (ArrayUnion.variants left).map (normal settings) ↔
      form ∈ (ArrayUnion.variants right).map (normal settings) := by
  cases alike with
  | alike alike => rw [alike.variants]
  | reordered depth multiline perm => exact perm.mem_iff

/-- A relation that holds between types that are alike, and otherwise only where no more than the order of members
differs. -/
structure Likeness (settings : Settings) (related : TypeExpr → TypeExpr → Prop) : Prop where
  of_alike {left right : TypeExpr} (alike : left.Alike settings right) : related left right
  upToOrder {left right : TypeExpr} (like : related left right) : left.AlikeUpToOrder settings right

theorem likeness_alike (settings : Settings) : Likeness settings (Alike settings) :=
  ⟨id, .alike⟩

theorem likeness_alikeUpToOrder (settings : Settings) : Likeness settings (AlikeUpToOrder settings) :=
  ⟨.alike, id⟩

/-- Two arrays of which the elements have related types. -/
inductive ArraysOf (related : TypeExpr → TypeExpr → Prop) : TypeExpr → TypeExpr → Prop
  | array {left right : TypeExpr} (elements : related left right) : ArraysOf related (.array left) (.array right)

/-- The distinct types among some types are those among others, and if they are several their unions are related. -/
structure UniteAlike (settings : Settings) (related : TypeExpr → TypeExpr → Prop) (types others : List TypeExpr) :
    Prop where
  perm : ((distinctByText settings types).map (normal settings)).Perm
    ((distinctByText settings others).map (normal settings))
  several (differ : (distinctByText settings types).length ≠ 1) (depth : Int) (multiline : Bool) :
    related (.union (distinctByText settings types) depth multiline)
      (.union (distinctByText settings others) depth multiline)

/-- Two types have the same text, or they are arrays of unions with members that have the same texts in some order. -/
def SameTextUpToOrder (settings : Settings) (left right : TypeExpr) : Prop :=
  left.render settings = right.render settings ∨
    ∃ members others depth multiline, left = .array (.union members depth multiline) ∧
      right = .array (.union others depth multiline) ∧
      (members.map (render settings)).Perm (others.map (render settings))

theorem ArraysOf.render_eq (arrays : ArraysOf (Alike settings) left right) :
    left.render settings = right.render settings := by
  cases arrays with
  | array alike => exact alike.array.render_eq

theorem ArraysOf.sameTextUpToOrder (arrays : ArraysOf (AlikeUpToOrder settings) left right) :
    left.SameTextUpToOrder settings right := by
  cases arrays with
  | array like =>
      cases like with
      | alike alike => exact .inl alike.array.render_eq
      | reordered depth multiline perm =>
          have texts (types : List TypeExpr) :
              (types.map (normal settings)).map (render settings) = types.map (render settings) := by
            rw [List.map_map]
            exact List.map_congr_left fun type _ => render_normal settings type
          have sameTexts := perm.map (render settings)
          rw [texts, texts] at sameTexts
          exact .inr ⟨_, _, depth, multiline, rfl, rfl, sameTexts⟩

section Related

variable {related : TypeExpr → TypeExpr → Prop}

theorem Likeness.arrayOfArrays (likeness : Likeness settings related) (single : ∀ type ∈ types, type.Single)
    (sameForms : ∀ form, form ∈ types.map (normal settings) ↔ form ∈ others.map (normal settings)) :
    ArraysOf related (ArrayUnion.arrayOfArrays settings types) (ArrayUnion.arrayOfArrays settings others) := by
  have alike := alike_arrayOfArrays single sameForms
  exact .array (likeness.of_alike (TypeExpr.array.inj alike))

theorem UniteAlike.length_eq (unite : UniteAlike settings related types others) :
    (distinctByText settings types).length = (distinctByText settings others).length := by
  have sameLength := unite.perm.length_eq
  rwa [List.length_map, List.length_map] at sameLength

theorem UniteAlike.exists_shapes (unite : UniteAlike settings related types others)
    (one : (distinctByText settings types).length = 1) :
    ∃ shape otherShape, distinctByText settings types = [shape] ∧ distinctByText settings others = [otherShape] ∧
      shape.Alike settings otherShape := by
  obtain ⟨shape, isShape⟩ := List.length_eq_one_iff.mp one
  obtain ⟨otherShape, isOtherShape⟩ := List.length_eq_one_iff.mp (unite.length_eq.symm.trans one)
  have perm := unite.perm
  rw [isShape, isOtherShape, List.map_singleton, List.map_singleton, List.perm_singleton] at perm
  exact ⟨shape, otherShape, isShape, isOtherShape, List.singleton_inj.mp perm⟩

/-- If the distinct types are a single one, all the types on both sides have its text. -/
theorem UniteAlike.render_eq (unite : UniteAlike settings related types others)
    (one : (distinctByText settings types).length = 1) (isType : left ∈ types) (isOther : right ∈ others) :
    left.render settings = right.render settings := by
  obtain ⟨shape, otherShape, isShape, isOtherShape, alike⟩ := unite.exists_shapes one
  have represents := represents_distinctByText settings types
  have otherRepresents := represents_distinctByText settings others
  rw [isShape] at represents
  rw [isOtherShape] at otherRepresents
  obtain ⟨variant, member, sameText⟩ := represents.exists_mem left isType
  obtain ⟨otherVariant, otherMember, otherSameText⟩ := otherRepresents.exists_mem right isOther
  calc
    left.render settings = shape.render settings := by rw [← sameText, List.mem_singleton.mp member]
    _ = otherShape.render settings := alike.render_eq
    _ = right.render settings := by rw [← otherSameText, List.mem_singleton.mp otherMember]

theorem UniteAlike.unionOf (likeness : Likeness settings related) (unite : UniteAlike settings related types others) :
    related (unionOf (distinctByText settings types)) (unionOf (distinctByText settings others)) := by
  by_cases one : (distinctByText settings types).length = 1
  · obtain ⟨shape, otherShape, isShape, isOtherShape, alike⟩ := unite.exists_shapes one
    rw [isShape, isOtherShape]
    exact likeness.of_alike alike
  · have otherSeveral := unite.length_eq ▸ one
    rw [unionOf_of_length_ne_one one, unionOf_of_length_ne_one otherSeveral]
    exact unite.several one 0 false

/-- Which types there are decides which distinct types are among them. -/
theorem perm_distinctByText_normal (regular : ∀ type ∈ types, type.Regular)
    (otherRegular : ∀ type ∈ others, type.Regular)
    (sameForms : ∀ form, form ∈ types.map (normal settings) ↔ form ∈ others.map (normal settings)) :
    ((distinctByText settings types).map (normal settings)).Perm
      ((distinctByText settings others).map (normal settings)) := by
  have nodup (types : List TypeExpr) : (distinctByText settings types).Nodup := by
    apply (pairwise_distinctByText settings types).imp
    rintro type _ differ rfl
    exact differ rfl
  -- Among normal forms none is left out but those that are there already.
  rw [← distinctByText_normal, ← distinctByText_normal, List.perm_ext_iff_of_nodup (nodup _) (nodup _)]
  intro form
  rw [(toldApart_map_normal regular).mem_distinctByText_iff, (toldApart_map_normal otherRegular).mem_distinctByText_iff,
    sameForms]

theorem uniteAlike_of_perm (regular : ∀ type ∈ types, type.Regular) (perm : types.Perm others) :
    UniteAlike settings (AlikeUpToOrder settings) types others := by
  have otherRegular : ∀ type ∈ others, type.Regular := fun type member => regular type (perm.mem_iff.mpr member)
  have distinct := perm_distinctByText_normal regular otherRegular fun _ => (perm.map (normal settings)).mem_iff
  exact ⟨distinct, fun _ depth multiline => .reordered depth multiline distinct⟩

theorem UniteAlike.of_one {otherRelated : TypeExpr → TypeExpr → Prop}
    (unite : UniteAlike settings related types others) (one : (distinctByText settings types).length = 1) :
    UniteAlike settings otherRelated types others :=
  ⟨unite.perm, fun differ => absurd one differ⟩

theorem uniteAlike_append {more : List TypeExpr} (repeated : ∀ type ∈ more, type ∈ types) :
    UniteAlike settings (Alike settings) types (types ++ more) := by
  have same : distinctByText settings (types ++ more) = distinctByText settings types := distinctByText_append repeated
  constructor
  · rw [same]
  · intro _ depth multiline
    rw [same]
    exact Eq.refl _

end Related

end TypeExpr

namespace ArrayKind

variable {graph : Graph} {opened : List Address} {elements others : List Value}

theorem ofElements_eq_of_mem_iff (same : ∀ element, element ∈ elements ↔ element ∈ others) :
    ofElements graph opened elements = ofElements graph opened others := by
  simp only [ofElements, List.all_eq_of_mem_iff same]

/-- All elements are arrays, or all are objects that are not open. -/
def Uniform (graph : Graph) (opened : List Address) (elements : List Value) : Prop :=
  (∀ element ∈ elements, graph.isArray element = true) ∨
    ∀ element ∈ elements, graph.isObject element = true ∧ element.isOpen opened = false

theorem Uniform.ofElements_ne_mixed (uniform : Uniform graph opened elements) :
    ofElements graph opened elements ≠ .mixed := by
  unfold ofElements
  split
  · exact nofun
  · rename_i notArrays
    obtain arrays | objects := uniform
    · exact absurd (List.all_eq_true.mpr arrays) notArrays
    · rw [if_pos]
      · exact nofun
      · rw [List.all_eq_true]
        intro element member
        rw [(objects element member).1, (objects element member).2]
        rfl

end ArrayKind

namespace Graph

variable {graph : Graph} {settings : Settings} {opened : List Address} {depth : Int} {elements others : List Value}
  {related : TypeExpr → TypeExpr → Prop}

/-- The type of an array with the given elements inside the open containers, the array itself among them. -/
def inferArray (graph : Graph) (settings : Settings) (elements : List Value) (depth : Int) (opened : List Address) :
    Typed TypeExpr :=
  if elements.isEmpty then .ok .emptyArray
  else graph.unifyArray settings (.ofElements graph opened elements) elements depth opened

/-- An array that is not open is typed by its elements. -/
theorem infer_container_eq_inferArray {address : Address} {node : Node} (isNode : graph.node? address = some node)
    (isArray : node.isObject = false) (fresh : address ∉ opened) (listing : graph.elements node = .ok elements) :
    (graph.typer settings).infer opened depth (.container address) =
      graph.inferArray settings elements depth (address :: opened) := by
  have byElements : Inference.array graph settings (graph.typer settings) (address :: opened) depth node =
      graph.inferArray settings elements depth (address :: opened) := by
    rw [Inference.array, listing]
    rfl
  -- One more container may be opened than there are left to open inside the array.
  have sameAnswers (inner : Call) (nests : Call.Nests graph ⟨false, opened, depth, .container address⟩ inner) :
      (Inference.typer graph settings graph.nodes.size).answer inner = (graph.typer settings).answer inner := by
    have fewer : (graph.unopened inner.opened).card < graph.nodes.size :=
      nests.card_unopened_lt.trans_le (graph.card_unopened_le opened)
    rw [typer, Nat.add_comm, Inference.typer_eq_typerOn, Inference.typer_eq_typerOn, Inference.typerOn_add]
    exact Inference.typerOn_answer_eq_of_unopened _ _ _ fewer
  have opens : (graph.typer settings).infer opened depth (.container address) =
      Inference.value graph settings (Inference.typer graph settings graph.nodes.size) opened depth
        (.container address) := rfl
  rw [← byElements, ← Inference.array_eq_of_nests sameAnswers isNode fresh isArray, opens]
  simp only [Inference.value, isNode, if_neg fresh, isArray, Bool.false_eq_true, if_false]

/-- The types by which elements are compared. -/
def elementTypes (graph : Graph) (settings : Settings) (elements : List Value) (depth : Int) (opened : List Address) :
    Typed (List TypeExpr) :=
  elements.mapM fun element => (graph.typer settings).answer
    ⟨decide (settings.mode = .merge ∧ graph.isObject element = true), opened, depth + 1, element⟩

theorem elementTypes_of_union (uniting : settings.mode = .union) :
    graph.elementTypes settings elements depth opened =
      elements.mapM ((graph.typer settings).infer opened (depth + 1)) := by
  simp [elementTypes, uniting, Typer.answer]

theorem ofMixed_eq : ArrayUnion.ofMixed graph settings (graph.typer settings) opened depth elements =
    graph.elementTypes settings elements depth opened >>= fun types =>
      .ok (.array (.unionOf (TypeExpr.distinctByText settings types))) := by
  simp only [ArrayUnion.ofMixed, elementTypes, Typer.answer, decide_eq_true_eq]
  rfl

theorem regular_of_elementTypes {types : List TypeExpr}
    (success : graph.elementTypes settings elements depth opened = .ok types) : ∀ type ∈ types, type.Regular :=
  each_of_forall₂ (Outcome.mapM_eq_ok_iff.mp success) fun _ _ answer => (Inference.single_of_answer answer).2

/-- Values whose types have one text at one level have types with one text at the level above. -/
theorem infer_alike_of_deeper {value other : Value} {type otherType : TypeExpr} (below : 0 ≤ depth)
    (inferred : (graph.typer settings).infer opened (depth + 1) value = .ok type)
    (otherInferred : (graph.typer settings).infer opened (depth + 1) other = .ok otherType)
    (sameText : type.render settings = otherType.render settings) :
    Outcome.Agree (TypeExpr.Alike settings) ((graph.typer settings).infer opened depth value)
      ((graph.typer settings).infer opened depth other) := by
  have steady := Inference.steady_typer graph settings 1 (graph.nodes.size + 1)
  have above (value : Value) {type : TypeExpr}
      (inferred : (graph.typer settings).infer opened (depth + 1) value = .ok type) :
      ∃ shallow, (graph.typer settings).infer opened depth value = .ok shallow ∧ shallow.Deepens ∧
        type.render settings = Layout.indentedText (settings.blanks (1 : Nat)) (shallow.render settings) := by
    have deeper : (graph.typer settings).infer opened (depth + 1) value =
        Typed.deepen 1 ((graph.typer settings).infer opened depth value) := steady.infer_deeper below
    rw [inferred] at deeper
    cases outcome : (graph.typer settings).infer opened depth value with
    | error fault =>
        rw [outcome] at deeper
        cases deeper
    | ok shallow =>
        rw [outcome] at deeper
        cases deeper
        have answer : (graph.typer settings).Answers ⟨false, opened, depth, value⟩ shallow := outcome
        have deepens := steady.deepens answer below
        exact ⟨shallow, rfl, deepens, TypeExpr.render_deepen settings 1 deepens.1 deepens.2⟩
  obtain ⟨shallow, shallowInferred, deepens, written⟩ := above value inferred
  obtain ⟨otherShallow, otherShallowInferred, otherDeepens, otherWritten⟩ := above other otherInferred
  rw [shallowInferred, otherShallowInferred]
  rw [written, otherWritten] at sameText
  have sameAbove := (Layout.indentedText_strictMono _).injective sameText
  exact .ok (TypeExpr.normal_eq_of_render_eq settings deepens.1 otherDeepens.1 sameAbove)

section Kinds

variable (likeness : TypeExpr.Likeness settings related)
include likeness

/-- Where elements are merged, or unwrapped all at once, it counts only which elements there are. -/
theorem unifyArray_agree_of_merge (merging : settings.mode = .merge) {kind : ArrayKind} (uniform : kind ≠ .mixed)
    (same : ∀ element, element ∈ elements ↔ element ∈ others) :
    Outcome.Agree (TypeExpr.ArraysOf related) (graph.unifyArray settings kind elements depth opened)
      (graph.unifyArray settings kind others depth opened) := by
  unfold unifyArray
  cases kind with
  | arrays =>
      simp only [ArrayUnion.ofKind, ArrayUnion.ofArrays, merging]
      apply (Outcome.mapM_agree_of_mem_iff same fun _ _ =>
        Outcome.agree_self.imp fun _ _ => congrArg (TypeExpr.normal settings)).bind
      intro types otherTypes success _ matched
      have typed : List.Forall₂
          (fun element type => (graph.typer settings).Answers ⟨false, opened, depth + 1, element⟩ type)
          elements types :=
        Outcome.mapM_eq_ok_iff.mp success
      have single : ∀ type ∈ types, type.Single := each_of_forall₂ typed fun _ _ => Inference.single_of_answer
      exact .ok (likeness.arrayOfArrays single (TypeExpr.mem_map_normal_iff_of_matched matched))
  | objects =>
      simp only [ArrayUnion.ofKind, ArrayUnion.ofObjects, merging]
      apply (Merge.shapes_agree graph.interchanges_refl (graph.interchanges_refl.typers settings _) same).bind
      intro shape other _ _ alike
      exact .ok (.array (likeness.of_alike alike))
  | mixed => exact absurd rfl uniform

section Apart

variable (below : 0 ≤ depth) (nonempty : elements ≠ []) (otherNonempty : others ≠ [])
  (unite : Outcome.Agree (TypeExpr.UniteAlike settings related) (graph.elementTypes settings elements depth opened)
    (graph.elementTypes settings others depth opened))
include below nonempty otherNonempty unite

theorem distinctShapes_agree (uniting : settings.mode = .union) :
    Outcome.Agree related (ArrayUnion.distinctShapes settings (graph.typer settings) opened depth elements)
      (ArrayUnion.distinctShapes settings (graph.typer settings) opened depth others) := by
  obtain ⟨first, rest, rfl⟩ := List.exists_cons_of_ne_nil nonempty
  obtain ⟨otherFirst, otherRest, rfl⟩ := List.exists_cons_of_ne_nil otherNonempty
  rw [elementTypes_of_union uniting, elementTypes_of_union uniting] at unite
  rw [ArrayUnion.distinctShapes_cons, ArrayUnion.distinctShapes_cons]
  apply unite.bind
  intro types otherTypes success otherSuccess unite
  have typed := Outcome.mapM_eq_ok_iff.mp success
  have otherTyped := Outcome.mapM_eq_ok_iff.mp otherSuccess
  rw [← unite.length_eq]
  split
  -- A single shape is laid out again at the level of the array, from the first element on either side.
  · rename_i one
    obtain ⟨type, isType, inferred⟩ := typed.exists_right List.mem_cons_self
    obtain ⟨otherType, isOther, otherInferred⟩ := otherTyped.exists_right List.mem_cons_self
    have sameText := unite.render_eq one isType isOther
    exact (infer_alike_of_deeper below inferred otherInferred sameText).imp fun _ _ => likeness.of_alike
  · rename_i differ
    rw [← TypeExpr.any_spansLines_of_perm unite.perm]
    exact .ok (unite.several differ depth _)

theorem ofArrays_agree (uniting : settings.mode = .union) :
    Outcome.Agree (TypeExpr.ArraysOf related)
      (ArrayUnion.ofArrays settings (graph.typer settings) opened depth elements)
      (ArrayUnion.ofArrays settings (graph.typer settings) opened depth others) := by
  simp only [ArrayUnion.ofArrays, uniting]
  apply (distinctShapes_agree likeness below nonempty otherNonempty unite uniting).bind
  intro shapes otherShapes success _ like
  have upToOrder := likeness.upToOrder like
  rw [upToOrder.spansLines_eq]
  split
  · exact .ok (.array like)
  · have built := ArrayUnion.buildsShapes_of_distinctShapes success
    have single := (built.variants_single (fun _ _ answer => Inference.single_of_answer answer) nonempty).2
    exact .ok (likeness.arrayOfArrays single upToOrder.mem_variants_iff)

/-- Where the types of the elements are kept apart, it counts which of them are distinct. -/
theorem unifyArray_agree_of_unite {kind : ArrayKind} (apart : kind ≠ .mixed → settings.mode = .union) :
    Outcome.Agree (TypeExpr.ArraysOf related) (graph.unifyArray settings kind elements depth opened)
      (graph.unifyArray settings kind others depth opened) := by
  unfold unifyArray
  cases kind with
  | arrays => exact ofArrays_agree likeness below nonempty otherNonempty unite (apart nofun)
  | objects =>
      have uniting := apart nofun
      simp only [ArrayUnion.ofKind, ArrayUnion.ofObjects, uniting]
      apply (distinctShapes_agree likeness below nonempty otherNonempty unite uniting).bind
      intro shapes otherShapes _ _ like
      exact .ok (.array like)
  | mixed =>
      rw [ArrayUnion.ofKind, ArrayUnion.ofKind, ofMixed_eq, ofMixed_eq]
      apply unite.bind
      intro types otherTypes _ _ unite
      exact .ok (.array (unite.unionOf likeness))

end Apart

/-- Arrays that have the same elements are typed alike if what their elements are compared by is the same. -/
theorem inferArray_agree (below : 0 ≤ depth) (same : ∀ element, element ∈ elements ↔ element ∈ others)
    (unite : ¬(settings.mode = .merge ∧ ArrayKind.ofElements graph opened elements ≠ .mixed) →
      Outcome.Agree (TypeExpr.UniteAlike settings related) (graph.elementTypes settings elements depth opened)
        (graph.elementTypes settings others depth opened)) :
    Outcome.Agree (TypeExpr.ArraysOf related) (graph.inferArray settings elements depth opened)
      (graph.inferArray settings others depth opened) := by
  have sameEmpty := List.isEmpty_eq_of_mem_iff same
  unfold inferArray
  rw [← sameEmpty, ← ArrayKind.ofElements_eq_of_mem_iff same]
  split
  · exact .ok (.array (likeness.of_alike rfl))
  · rename_i someElements
    have nonempty : elements ≠ [] := by simpa using someElements
    have otherNonempty : others ≠ [] := by
      rw [sameEmpty] at someElements
      simpa using someElements
    by_cases merged : settings.mode = .merge ∧ ArrayKind.ofElements graph opened elements ≠ .mixed
    · exact unifyArray_agree_of_merge likeness merged.1 merged.2 same
    · apply unifyArray_agree_of_unite likeness below nonempty otherNonempty (unite merged)
      intro uniform
      cases mode : settings.mode with
      | union => rfl
      | merge => exact absurd ⟨mode, uniform⟩ merged

end Kinds

/-- An array has no type only where one of its elements cannot be typed. -/
theorem failsBelow_of_inferArray {fault : Fault}
    (failed : graph.inferArray settings elements depth opened = .error fault) :
    ∃ element ∈ elements, graph.FailsBelow element fault := by
  by_contra noElement
  -- Nothing that the elements need has the fault, so a typer without it gives the same type.
  have whole (element : Value) (member : element ∈ elements) : ¬graph.FailsBelow element fault :=
    fun failsBelow => noElement ⟨element, member, failsBelow⟩
  have wholeParts (element : Value) (member : element ∈ elements) (isObject : graph.isObject element = true)
      (entries : List (String × List Value)) (key : String) (part : Value)
      (listing : graph.entries element = .ok entries) (filed : Filed entries key part) :
      ¬graph.FailsBelow part fault := by
    obtain ⟨address, node, rfl, isNode, -⟩ := isObject_eq_true_iff.mp isObject
    rw [entries_container isNode] at listing
    have held := (mem_held_iff_of_entries listing).mpr ⟨key, filed⟩
    exact fun failsBelow => whole _ member (failsBelow.of_holds ⟨node, isNode, held⟩)
  have sameAnswer (call : Call) (notBelow : ¬graph.FailsBelow call.value fault) :
      (graph.typer settings).answer call = ((graph.typer settings).without fault).answer call := by
    have noFault : (graph.typer settings).answer call ≠ .error fault :=
      fun callFailed => notBelow (failsBelow_of_answer callFailed)
    rw [Typer.answer_without, Typed.without, if_neg noFault]
  have sameType : ArrayUnion.ofKind graph settings (graph.typer settings) opened depth
        (.ofElements graph opened elements) elements =
      ArrayUnion.ofKind graph settings ((graph.typer settings).without fault) opened depth
        (.ofElements graph opened elements) elements := by
    apply ArrayUnion.ofKind_congr
    · intro element member elementDepth _
      exact sameAnswer ⟨false, opened, elementDepth, element⟩ (whole element member)
    · intro element member _
      exact sameAnswer ⟨true, opened, depth + 1, element⟩ (whole element member)
    · intro element member isObject _ entries key part listing filed
      exact sameAnswer ⟨true, element.open opened, depth + 1, part⟩
        (wholeParts element member isObject entries key part listing filed)
  unfold inferArray unifyArray at failed
  split at failed
  · cases failed
  · rw [sameType] at failed
    obtain ⟨element, member, isObject, entriesFailed⟩ := ArrayUnion.ofKind_eq_error
      (fun _ _ _ => Typed.without_ne fault _) (fun _ _ _ => Typed.without_ne fault _) failed
    exact whole element member (failsBelow_of_entries isObject entriesFailed)

/-- Elements in another order have the same types in another order. -/
theorem uniteAlike_elementTypes_of_perm (perm : elements.Perm others) :
    Outcome.Agree (TypeExpr.UniteAlike settings (TypeExpr.AlikeUpToOrder settings))
      (graph.elementTypes settings elements depth opened) (graph.elementTypes settings others depth opened) := by
  have agree : Outcome.Agree List.Perm (graph.elementTypes settings elements depth opened)
      (graph.elementTypes settings others depth opened) := Outcome.mapM_agree_of_perm perm
  obtain ⟨types, otherTypes, success, otherSuccess, permuted⟩ | ⟨fault, otherFault, failed, otherFailed⟩ :=
    agree.results_or_faults
  · rw [success, otherSuccess]
    exact .ok (TypeExpr.uniteAlike_of_perm (regular_of_elementTypes success) permuted)
  · rw [failed, otherFailed]
    exact .error fault otherFault

/-- There is one distinct type among those by which the elements are compared. -/
def OneShape (graph : Graph) (settings : Settings) (elements : List Value) (depth : Int) (opened : List Address) :
    Prop :=
  ∃ types, graph.elementTypes settings elements depth opened = .ok types ∧
    (TypeExpr.distinctByText settings types).length = 1

theorem inferArray_agree_of_perm (below : 0 ≤ depth) (perm : elements.Perm others) :
    Outcome.Agree (TypeExpr.ArraysOf (TypeExpr.AlikeUpToOrder settings))
      (graph.inferArray settings elements depth opened) (graph.inferArray settings others depth opened) :=
  inferArray_agree (TypeExpr.likeness_alikeUpToOrder settings) below (fun _ => perm.mem_iff)
    fun _ => uniteAlike_elementTypes_of_perm perm

/-- Elements that are merged, or that have one shape, may come in any order. -/
theorem inferArray_agree_of_uniform (below : 0 ≤ depth) (perm : elements.Perm others)
    (uniform : settings.mode = .merge ∧ ArrayKind.Uniform graph opened elements ∨
      graph.OneShape settings elements depth opened) :
    Outcome.Agree (TypeExpr.ArraysOf (TypeExpr.Alike settings))
      (graph.inferArray settings elements depth opened) (graph.inferArray settings others depth opened) := by
  apply inferArray_agree (TypeExpr.likeness_alike settings) below fun _ => perm.mem_iff
  intro apart
  obtain ⟨merging, isUniform⟩ | ⟨types, success, one⟩ := uniform
  · exact absurd ⟨merging, isUniform.ofElements_ne_mixed⟩ apart
  · obtain ⟨otherTypes, otherSuccess, unite⟩ := (uniteAlike_elementTypes_of_perm perm).exists_right success
    rw [success, otherSuccess]
    exact .ok (unite.of_one one)

/-- Elements that come up again have types that have come up before. -/
theorem inferArray_agree_append (below : 0 ≤ depth) {repeated : List Value} (isRepeated : repeated ⊆ elements) :
    Outcome.Agree (TypeExpr.ArraysOf (TypeExpr.Alike settings)) (graph.inferArray settings elements depth opened)
      (graph.inferArray settings (elements ++ repeated) depth opened) := by
  have same (element : Value) : element ∈ elements ↔ element ∈ elements ++ repeated := by
    rw [List.mem_append]
    exact ⟨.inl, fun member => member.elim id fun later => isRepeated later⟩
  apply inferArray_agree (TypeExpr.likeness_alike settings) below same
  intro _
  apply (Outcome.mapM_agree_append isRepeated _).imp
  rintro types _ ⟨more, known, rfl⟩
  exact TypeExpr.uniteAlike_append known

/-- An array has no type, because of one of its elements. -/
def FailsOnElement (graph : Graph) (settings : Settings) (elements : List Value) (depth : Int)
    (opened : List Address) : Prop :=
  ∃ fault, graph.inferArray settings elements depth opened = .error fault ∧
    ∃ element ∈ elements, graph.FailsBelow element fault

theorem inferArray_cases
    (agree : Outcome.Agree (TypeExpr.ArraysOf related) (graph.inferArray settings elements depth opened)
      (graph.inferArray settings others depth opened)) :
    (∃ type other, graph.inferArray settings elements depth opened = .ok type ∧
        graph.inferArray settings others depth opened = .ok other ∧ TypeExpr.ArraysOf related type other) ∨
      graph.FailsOnElement settings elements depth opened ∧ graph.FailsOnElement settings others depth opened := by
  obtain typed | ⟨fault, otherFault, failed, otherFailed⟩ := agree.results_or_faults
  · exact .inl typed
  · exact .inr ⟨⟨fault, failed, failsBelow_of_inferArray failed⟩,
      otherFault, otherFailed, failsBelow_of_inferArray otherFailed⟩

/-- The order of the elements of an array is seen in its text as the order of the members of one union at most: not at
all where elements of one kind are merged, and not where the elements have one shape.  Elements that come up again are
never seen.  An array has a type in every order or in none. -/
theorem inferArray_rearranged (graph : Graph) (settings : Settings) (elements : List Value) {depth : Int}
    (opened : List Address) (below : 0 ≤ depth) :
    (∀ others, elements.Perm others →
      (∃ type other, graph.inferArray settings elements depth opened = .ok type ∧
          graph.inferArray settings others depth opened = .ok other ∧ type.SameTextUpToOrder settings other ∧
          (settings.mode = .merge ∧ ArrayKind.Uniform graph opened elements ∨
              graph.OneShape settings elements depth opened →
            type.render settings = other.render settings)) ∨
        graph.FailsOnElement settings elements depth opened ∧ graph.FailsOnElement settings others depth opened) ∧
    ∀ repeated, repeated ⊆ elements →
      (∃ type other, graph.inferArray settings elements depth opened = .ok type ∧
          graph.inferArray settings (elements ++ repeated) depth opened = .ok other ∧
          type.render settings = other.render settings) ∨
        graph.FailsOnElement settings elements depth opened ∧
          graph.FailsOnElement settings (elements ++ repeated) depth opened := by
  constructor
  · intro others perm
    obtain ⟨type, other, inferred, otherInferred, arrays⟩ | failed :=
      inferArray_cases (inferArray_agree_of_perm below perm)
    · refine .inl ⟨type, other, inferred, otherInferred, arrays.sameTextUpToOrder, fun uniform => ?_⟩
      have agree := inferArray_agree_of_uniform below perm uniform
      rw [inferred, otherInferred] at agree
      cases agree with
      | ok alike => exact alike.render_eq
    · exact .inr failed
  · intro repeated isRepeated
    obtain ⟨type, other, inferred, otherInferred, arrays⟩ | failed :=
      inferArray_cases (inferArray_agree_append below isRepeated)
    · exact .inl ⟨type, other, inferred, otherInferred, arrays.render_eq⟩
    · exact .inr failed

/-- Two books, one of which is known by its title and one by its number of pages. -/
def bookstall : Graph :=
  ⟨#[.mapping .plain [(.leaf (.text "title"), .leaf (.text "Ulysses"))],
    .mapping .plain [(.leaf (.text "pages"), .leaf (.integer 730))]]⟩

/-- Nothing and two books, with nothing at the other end. -/
theorem inferArray_rearranged_bookstall :
    (0 : Int) ≤ 1 ∧
      ∃ type other, bookstall.inferArray {} [.leaf .null, .container 0, .container 1] 1 [] = .ok type ∧
        bookstall.inferArray {} [.container 0, .container 1, .leaf .null] 1 [] = .ok other ∧
        type.SameTextUpToOrder {} other := by
  have below : (0 : Int) ≤ 1 := by decide
  refine ⟨below, ?_⟩
  have perm : [Value.leaf .null, .container 0, .container 1].Perm [.container 0, .container 1, .leaf .null] :=
    (List.perm_append_singleton _ [_, _]).symm
  obtain ⟨type, other, inferred, otherInferred, sameText, -⟩ | ⟨⟨fault, failed, -⟩, -⟩ :=
    (inferArray_rearranged bookstall {} [.leaf .null, .container 0, .container 1] [] below).1 _ perm
  · exact ⟨type, other, inferred, otherInferred, sameText⟩
  · have typed : (bookstall.inferArray {} [.leaf .null, .container 0, .container 1] 1 []).isOk = true := by
      decide +kernel
    rw [failed] at typed
    cases typed

end Graph

end SampleTypes
