import SampleTypes.Proofs.Failure
import SampleTypes.Proofs.MemberOrder

/-!
# Types under other settings of layout

The indentation and the style of arrays say how a type is written.  Types are told apart and sorted by their
texts, so these settings also decide about the order in which members come, and whether members that differ in
their order only are one or several.  Nothing else in a type depends on them.
-/

namespace SampleTypes

namespace TypeExpr

/-- What a type is apart from its layout and the order and repetition of members, and whether it spans
lines. -/
def outline (type : TypeExpr) : TypeExpr × Bool :=
  (type.canonical, type.spansLines)

/-- The outline of a union of types with the given outlines. -/
def outlineOfUnion (outlines : List (TypeExpr × Bool)) : TypeExpr × Bool :=
  (sortedUnion {} (outlines.map (·.1)), outlines.any (·.2))

/-- Whether a type spans lines exactly if one of its parts without its array does. -/
def SpansByParts (type : TypeExpr) : Prop :=
  type.unwrapArray.any (·.spansLines) = type.spansLines

theorem outline_array_eq {element other : TypeExpr} (same : element.outline = other.outline) :
    (array element).outline = (array other).outline := by
  obtain ⟨sameForm, sameLines⟩ := Prod.mk.inj same
  rw [outline, outline, canonical, canonical, spansLines, spansLines, sameForm, sameLines]

section Unions

variable {settings left right : Settings} {types others : List TypeExpr}

theorem outlineOfUnion_map (types : List TypeExpr) :
    outlineOfUnion (types.map outline) =
      (sortedUnion {} (types.map canonical), types.any (·.spansLines)) := by
  rw [outlineOfUnion, List.map_map, List.any_map]
  rfl

theorem outline_unionOf_distinctByText (single : ∀ type ∈ types, type.Single) :
    (unionOf (distinctByText settings types)).outline = outlineOfUnion (types.map outline) := by
  rw [outlineOfUnion_map, outline, canonical_unionOf_distinctByText single,
    spansLines_unionOf_distinctByText single]

theorem map_canonical_eq (same : types.map outline = others.map outline) :
    types.map canonical = others.map canonical := by
  have firsts := congrArg (List.map Prod.fst) same
  rwa [List.map_map, List.map_map] at firsts

theorem any_spansLines_eq (same : types.map outline = others.map outline) :
    types.any (·.spansLines) = others.any (·.spansLines) := by
  have seconds := congrArg (List.any · Prod.snd) same
  simp only [List.any_map] at seconds
  exact seconds

theorem any_spansLines_parts (spansByParts : ∀ type ∈ types, type.SpansByParts) :
    (types.flatMap unwrapArray).any (·.spansLines) = types.any (·.spansLines) := by
  rw [List.any_flatMap, Bool.eq_iff_iff, List.any_eq_true, List.any_eq_true]
  refine exists_congr fun type => and_congr_right fun member => ?_
  rw [spansByParts type member]

/-- Types with the same canonical forms make arrays of arrays with the same outline. -/
theorem outline_arrayOfArrays_eq (single : ∀ type ∈ types, type.Single)
    (otherSingle : ∀ type ∈ others, type.Single) (spansByParts : ∀ type ∈ types, type.SpansByParts)
    (otherSpansByParts : ∀ type ∈ others, type.SpansByParts)
    (sameForms : ∀ form, form ∈ types.map canonical ↔ form ∈ others.map canonical)
    (sameLines : types.any (·.spansLines) = others.any (·.spansLines)) :
    (ArrayUnion.arrayOfArrays left types).outline = (ArrayUnion.arrayOfArrays right others).outline := by
  have sameSpans : (ArrayUnion.arrayOfArrays left types).spansLines =
      (ArrayUnion.arrayOfArrays right others).spansLines := by
    rw [ArrayUnion.arrayOfArrays, ArrayUnion.arrayOfArrays, spansLines, spansLines, spansLines, spansLines,
      spansLines_sortedUnion (single_flatMap_unwrapArray single),
      spansLines_sortedUnion (single_flatMap_unwrapArray otherSingle), any_spansLines_parts spansByParts,
      any_spansLines_parts otherSpansByParts, sameLines]
  rw [outline, outline, canonical_arrayOfArrays_eq single otherSingle sameForms, sameSpans]

end Unions

end TypeExpr

/-- A property with its type in canonical form. -/
def Property.canonical (property : Property TypeExpr) : Property TypeExpr :=
  ⟨property.key, property.value.canonical, property.optional⟩

theorem TypeExpr.outline_object_eq {properties others : List (Property TypeExpr)} (depth otherDepth : Int)
    (same : properties.map Property.canonical = others.map Property.canonical) :
    (TypeExpr.object properties depth).outline = (TypeExpr.object others otherDepth).outline := by
  have sameProperties : canonicalProperties properties = canonicalProperties others := by
    rw [canonicalProperties_eq_map, canonicalProperties_eq_map]
    exact same
  rw [outline, outline, canonical, canonical, sameProperties]
  rfl

section Parts

variable {graph : Graph} {settings : Settings} {typed : Assignment} {opened : List Address} {depth : Int}
  {elements : List Value}

/-- A union of shapes spans lines exactly if one of the shapes does. -/
theorem ArrayUnion.BuildsShapes.any_variants (single : ∀ call type, typed call type → type.Single)
    {shapes : TypeExpr} (built : BuildsShapes settings typed opened depth elements shapes) :
    (variants shapes).any (·.spansLines) = shapes.spansLines := by
  cases built with
  | one elementTypes agree again =>
      rw [TypeExpr.variants_eq_singleton (single _ _ again).1, List.any_cons, List.any_nil, Bool.or_false]
  | several elementTypes differ =>
      rw [TypeExpr.spansLines, TypeExpr.anySpansLines_eq_any, Bool.or_self]
      rfl

theorem ArrayUnion.Builds.spansByParts (single : ∀ call type, typed call type → type.Single)
    {kind : ArrayKind} {type : TypeExpr}
    (built : Builds graph settings typed opened depth elements kind type) : type.SpansByParts := by
  unfold TypeExpr.SpansByParts
  cases built with
  | arrays | flatArrayShapes =>
      exact Bool.or_false _
  | arrayShapes uniting built | objectShapes uniting built =>
      rw [TypeExpr.unwrapArray_array, built.any_variants single]
      rfl
  | objects merging built =>
      rw [TypeExpr.unwrapArray_array, TypeExpr.variants_eq_singleton (built.single single).1]
      exact Bool.or_false _
  | @mixed types elementTypes =>
      have typesSingle := each_of_forall₂ elementTypes fun _ _ => single _ _
      have represents := TypeExpr.represents_distinctByText settings types
      rw [TypeExpr.unwrapArray_array, TypeExpr.spansLines, TypeExpr.spansLines_unionOf,
        TypeExpr.variants_unionOf fun type member => (represents.single typesSingle type member).1]

theorem Inference.Builds.spansByParts (single : ∀ call type, typed call type → type.Single) {call : Call}
    {type : TypeExpr} (built : Builds graph settings typed call type) : type.SpansByParts := by
  have ofMerged {opened : List Address} {depth : Int} {objects : List Value} {type : TypeExpr}
      (built : Merge.Builds graph settings typed opened depth objects type) : type.SpansByParts := by
    cases built <;> rfl
  cases built with
  | leaf merging opened depth leaf =>
      cases leaf with
      | integer value kind =>
          rw [Leaf.type]
          split <;> rfl
      | _ => rfl
  | missing | circular | emptyArray => rfl
  | object => split <;> rfl
  | mergedObject isNode fresh isObject built => exact ofMerged built
  | array isNode fresh isArray listing nonempty built => exact built.spansByParts single
  | mergedArray isNode fresh isMerged built =>
      unfold TypeExpr.SpansByParts
      rw [TypeExpr.unwrapArray_array, TypeExpr.variants_eq_singleton (built.single single).1]
      exact Bool.or_false _

end Parts

/-- A typer whose answers are types that may stand for a value and span lines by parts. -/
def Typer.Plain (typer : Typer) : Prop :=
  ∀ call type, typer.Answers call type → type.Single ∧ type.SpansByParts

/-- Two typers that answer alike, or fail alike, apart from the layout and the order and repetition of
members, at whatever depths. -/
structure Typer.Alike (left right : Typer) : Prop where
  leftPlain : left.Plain
  rightPlain : right.Plain
  infer (opened : List Address) (leftDepth rightDepth : Int) (value : Value) :
    (left.infer opened leftDepth value).map TypeExpr.outline =
      (right.infer opened rightDepth value).map TypeExpr.outline
  contribute (opened : List Address) (leftDepth rightDepth : Int) (value : Value) :
    (left.contribute opened leftDepth value).map TypeExpr.outline =
      (right.contribute opened rightDepth value).map TypeExpr.outline

section Alike

variable {graph : Graph} {leftSettings rightSettings : Settings} {left right : Typer}
  {opened : List Address}

namespace Typer

theorem Plain.single {typer : Typer} (plain : typer.Plain) :
    ∀ call type, typer.Answers call type → type.Single :=
  fun call type answer => (plain call type answer).1

/-- The types that a plain typer gives to some values may stand for them and span lines by parts. -/
theorem Plain.of_mapM {typer : Typer} (plain : typer.Plain) {α : Type} {items : List α}
    {types : List TypeExpr} (call : α → Call)
    (success : (items.mapM fun item => typer.answer (call item)) = .ok types) :
    (∀ type ∈ types, type.Single) ∧ ∀ type ∈ types, type.SpansByParts := by
  have answers := Outcome.mapM_eq_ok_iff.mp success
  exact ⟨each_of_forall₂ answers fun _ _ answer => (plain _ _ answer).1,
    each_of_forall₂ answers fun _ _ answer => (plain _ _ answer).2⟩

theorem Plain.variants {typer : Typer} (plain : typer.Plain) {settings : Settings} {depth : Int}
    {elements : List Value} {shapes : TypeExpr}
    (built : ArrayUnion.BuildsShapes settings typer.Answers opened depth elements shapes) :
    (∀ variant ∈ ArrayUnion.variants shapes, variant.Single) ∧
      ∀ variant ∈ ArrayUnion.variants shapes, variant.SpansByParts := by
  have answered := built.exists_element plain.single
  constructor
  · intro variant member
    obtain ⟨element, -, variantDepth, -, answer⟩ := answered variant member
    exact (plain _ _ answer).1
  · intro variant member
    obtain ⟨element, -, variantDepth, -, answer⟩ := answered variant member
    exact (plain _ _ answer).2

/-- Each of the typers answers alike at all depths. -/
theorem Alike.same_left (alike : left.Alike right) (opened : List Address) (depth otherDepth : Int)
    (value : Value) :
    (left.infer opened depth value).map TypeExpr.outline =
      (left.infer opened otherDepth value).map TypeExpr.outline :=
  (alike.infer opened depth depth value).trans (alike.infer opened otherDepth depth value).symm

theorem Alike.same_right (alike : left.Alike right) (opened : List Address) (depth otherDepth : Int)
    (value : Value) :
    (right.infer opened depth value).map TypeExpr.outline =
      (right.infer opened otherDepth value).map TypeExpr.outline :=
  (alike.infer opened depth depth value).symm.trans (alike.infer opened depth otherDepth value)

end Typer

namespace Merge

variable (alike : left.Alike right)
include alike

theorem property_alike (leftDepth rightDepth : Int) (objects : List Described) (key : String) :
    (property leftSettings left opened leftDepth objects key).map Property.canonical =
      (property rightSettings right opened rightDepth objects key).map Property.canonical := by
  unfold property
  rw [contributions_eq_mapM, contributions_eq_mapM]
  apply Outcome.bind_map_congr (List.map TypeExpr.outline)
  · apply Outcome.mapM_map_congr
    intro contributor _
    exact alike.contribute _ _ _ _
  · intro types others success otherSuccess same
    have single := (alike.leftPlain.of_mapM (fun contributor : Value × Value =>
      ⟨true, contributor.1.open opened, leftDepth + 1, contributor.2⟩) success).1
    have otherSingle := (alike.rightPlain.of_mapM (fun contributor : Value × Value =>
      ⟨true, contributor.1.open opened, rightDepth + 1, contributor.2⟩) otherSuccess).1
    have sameForm : (TypeExpr.sortedUnion leftSettings types).canonical =
        (TypeExpr.sortedUnion rightSettings others).canonical := by
      rw [TypeExpr.canonical_sortedUnion single, TypeExpr.canonical_sortedUnion otherSingle,
        TypeExpr.map_canonical_eq same]
    exact congrArg (fun value => Except.ok (Property.mk key value (!objects.all (·.hasKey key)))) sameForm

theorem shapes_alike (leftDepth rightDepth : Int) (objects : List Value) :
    (shapes graph leftSettings left opened leftDepth objects).map TypeExpr.outline =
      (shapes graph rightSettings right opened rightDepth objects).map TypeExpr.outline := by
  unfold shapes
  split
  · rfl
  · rw [Outcome.map_bind, Outcome.map_bind]
    apply Outcome.bind_congr
    intro described _
    dsimp only
    split
    · rfl
    · apply Outcome.bind_map_congr (List.map Property.canonical)
      · apply Outcome.mapM_map_congr
        intro key _
        exact property_alike alike leftDepth rightDepth described key
      · intro properties others _ _ same
        exact congrArg Except.ok (TypeExpr.outline_object_eq leftDepth rightDepth same)

end Merge

namespace ArrayUnion

/-- The union of the shapes of some elements has the outline of a union of their types. -/
theorem distinctShapes_outline {typer : Typer} {settings : Settings} (plain : typer.Plain)
    (same : ∀ depth otherDepth value, (typer.infer opened depth value).map TypeExpr.outline =
      (typer.infer opened otherDepth value).map TypeExpr.outline) (depth : Int) (elements : List Value) :
    (distinctShapes settings typer opened depth elements).map TypeExpr.outline =
      ((elements.mapM (typer.infer opened (depth + 1))).map (List.map TypeExpr.outline)).map
        TypeExpr.outlineOfUnion := by
  unfold distinctShapes
  rw [Outcome.map_bind]
  cases inferred : elements.mapM (typer.infer opened (depth + 1)) with
  | error fault => rfl
  | ok types =>
      have single := (plain.of_mapM (fun element => ⟨false, opened, depth + 1, element⟩) inferred).1
      have represents := TypeExpr.represents_distinctByText settings types
      have outlineOfShapes : TypeExpr.outlineOfUnion (types.map TypeExpr.outline) =
          (TypeExpr.sortedUnion {} ((TypeExpr.distinctByText settings types).map TypeExpr.canonical),
            (TypeExpr.distinctByText settings types).any (·.spansLines)) := by
        rw [TypeExpr.outlineOfUnion_map, represents.sortedUnion_canonical single,
          represents.any_spansLines single]
      change Except.map TypeExpr.outline _ = Except.ok (TypeExpr.outlineOfUnion (types.map TypeExpr.outline))
      rw [outlineOfShapes]
      split
      · rename_i first others shape agree
        -- The type of the first element at the depth of the array has the outline of its type in the array,
        -- and that type has the text of the only shape.
        obtain ⟨firstType, firstMember, firstInferred⟩ :=
          (Outcome.mapM_eq_ok_iff.mp inferred).exists_right List.mem_cons_self
        obtain ⟨variant, variantMember, sameText⟩ := represents.exists_mem firstType firstMember
        have variantSingle := single variant (represents.mem_of_mem variant variantMember)
        have firstSingle := single firstType firstMember
        rw [agree, List.mem_singleton] at variantMember
        rw [same depth (depth + 1) first, firstInferred, agree, ← variantMember]
        change Except.ok (firstType.canonical, firstType.spansLines) =
          Except.ok (variant.canonical, variant.spansLines || false)
        rw [TypeExpr.canonical_eq_of_render_eq variantSingle.2 firstSingle.2 sameText,
          TypeExpr.spansLines_eq_of_render_eq variantSingle.2 firstSingle.2 sameText, Bool.or_false]
      · change Except.ok (TypeExpr.outline _) = _
        rw [TypeExpr.outline, TypeExpr.canonical_union, TypeExpr.spansLines, TypeExpr.anySpansLines_eq_any,
          Bool.or_self]

variable (alike : left.Alike right)
include alike

theorem distinctShapes_alike (leftDepth rightDepth : Int) (elements : List Value) :
    (distinctShapes leftSettings left opened leftDepth elements).map TypeExpr.outline =
      (distinctShapes rightSettings right opened rightDepth elements).map TypeExpr.outline := by
  have sameTypes : (elements.mapM (left.infer opened (leftDepth + 1))).map (List.map TypeExpr.outline) =
      (elements.mapM (right.infer opened (rightDepth + 1))).map (List.map TypeExpr.outline) := by
    apply Outcome.mapM_map_congr
    intro element _
    exact alike.infer _ _ _ _
  rw [distinctShapes_outline alike.leftPlain (alike.same_left opened),
    distinctShapes_outline alike.rightPlain (alike.same_right opened), sameTypes]

theorem ofArrays_alike (sameMode : leftSettings.mode = rightSettings.mode) (leftDepth rightDepth : Int)
    {elements : List Value} (nonempty : elements ≠ []) :
    (ofArrays leftSettings left opened leftDepth elements).map TypeExpr.outline =
      (ofArrays rightSettings right opened rightDepth elements).map TypeExpr.outline := by
  unfold ofArrays
  rw [sameMode]
  cases rightSettings.mode with
  | merge =>
      apply Outcome.bind_map_congr (List.map TypeExpr.outline)
      · apply Outcome.mapM_map_congr
        intro element _
        exact alike.infer _ _ _ _
      · intro types others success otherSuccess same
        obtain ⟨single, spansByParts⟩ :=
          alike.leftPlain.of_mapM (fun element => ⟨false, opened, leftDepth + 1, element⟩) success
        obtain ⟨otherSingle, otherSpansByParts⟩ :=
          alike.rightPlain.of_mapM (fun element => ⟨false, opened, rightDepth + 1, element⟩) otherSuccess
        have sameForms := TypeExpr.map_canonical_eq same
        exact congrArg Except.ok (TypeExpr.outline_arrayOfArrays_eq single otherSingle spansByParts
          otherSpansByParts (fun form => by rw [sameForms]) (TypeExpr.any_spansLines_eq same))
  | union =>
      dsimp only
      apply Outcome.bind_map_congr TypeExpr.outline
      · exact distinctShapes_alike alike leftDepth rightDepth elements
      · intro shapes others success otherSuccess same
        obtain ⟨sameForm, sameLines⟩ := Prod.mk.inj same
        have built := buildsShapes_of_distinctShapes success
        have otherBuilt := buildsShapes_of_distinctShapes otherSuccess
        rw [sameLines]
        split
        · exact congrArg Except.ok (TypeExpr.outline_array_eq same)
        · obtain ⟨single, spansByParts⟩ := alike.leftPlain.variants built
          obtain ⟨otherSingle, otherSpansByParts⟩ := alike.rightPlain.variants otherBuilt
          refine congrArg Except.ok (TypeExpr.outline_arrayOfArrays_eq single otherSingle spansByParts
            otherSpansByParts ?_ ?_)
          · intro form
            rw [← TypeExpr.mem_variants_canonical_iff (built.regular alike.leftPlain.single nonempty), sameForm,
              TypeExpr.mem_variants_canonical_iff (otherBuilt.regular alike.rightPlain.single nonempty)]
          · rw [built.any_variants alike.leftPlain.single, sameLines,
              otherBuilt.any_variants alike.rightPlain.single]

theorem ofObjects_alike (sameMode : leftSettings.mode = rightSettings.mode) (leftDepth rightDepth : Int)
    (elements : List Value) :
    (ofObjects graph leftSettings left opened leftDepth elements).map TypeExpr.outline =
      (ofObjects graph rightSettings right opened rightDepth elements).map TypeExpr.outline := by
  unfold ofObjects
  rw [sameMode]
  cases rightSettings.mode with
  | merge =>
      apply Outcome.bind_map_congr TypeExpr.outline
      · exact Merge.shapes_alike alike leftDepth rightDepth elements
      · intro shape other _ _ same
        exact congrArg Except.ok (TypeExpr.outline_array_eq same)
  | union =>
      apply Outcome.bind_map_congr TypeExpr.outline
      · exact distinctShapes_alike alike leftDepth rightDepth elements
      · intro shapes others _ _ same
        exact congrArg Except.ok (TypeExpr.outline_array_eq same)

theorem ofMixed_alike (sameMode : leftSettings.mode = rightSettings.mode) (leftDepth rightDepth : Int)
    (elements : List Value) :
    (ofMixed graph leftSettings left opened leftDepth elements).map TypeExpr.outline =
      (ofMixed graph rightSettings right opened rightDepth elements).map TypeExpr.outline := by
  unfold ofMixed
  rw [sameMode]
  apply Outcome.bind_map_congr (List.map TypeExpr.outline)
  · apply Outcome.mapM_map_congr
    intro element _
    split
    · exact alike.contribute _ _ _ _
    · exact alike.infer _ _ _ _
  · intro types others success otherSuccess same
    have single := (alike.leftPlain.of_mapM (fun element =>
      ⟨decide (rightSettings.mode = .merge ∧ graph.isObject element), opened, leftDepth + 1, element⟩)
      (by simpa only [Typer.answer, decide_eq_true_eq] using success)).1
    have otherSingle := (alike.rightPlain.of_mapM (fun element =>
      ⟨decide (rightSettings.mode = .merge ∧ graph.isObject element), opened, rightDepth + 1, element⟩)
      (by simpa only [Typer.answer, decide_eq_true_eq] using otherSuccess)).1
    refine congrArg Except.ok (TypeExpr.outline_array_eq ?_)
    rw [TypeExpr.outline_unionOf_distinctByText single, TypeExpr.outline_unionOf_distinctByText otherSingle,
      same]

theorem ofKind_alike (sameMode : leftSettings.mode = rightSettings.mode) (leftDepth rightDepth : Int)
    {elements : List Value} (nonempty : elements ≠ []) (kind : ArrayKind) :
    (ofKind graph leftSettings left opened leftDepth kind elements).map TypeExpr.outline =
      (ofKind graph rightSettings right opened rightDepth kind elements).map TypeExpr.outline := by
  cases kind with
  | arrays => exact ofArrays_alike alike sameMode leftDepth rightDepth nonempty
  | objects => exact ofObjects_alike alike sameMode leftDepth rightDepth elements
  | mixed => exact ofMixed_alike alike sameMode leftDepth rightDepth elements

end ArrayUnion

namespace Inference

variable (alike : left.Alike right) (sameMode : leftSettings.mode = rightSettings.mode)
include alike sameMode

omit sameMode in
theorem object_alike (leftDepth rightDepth : Int) (node : Node) :
    (object graph leftSettings left opened leftDepth node).map TypeExpr.outline =
      (object graph rightSettings right opened rightDepth node).map TypeExpr.outline := by
  unfold object
  rw [Outcome.map_bind, Outcome.map_bind]
  apply Outcome.bind_congr
  intro entries _
  apply Outcome.bind_map_congr (List.map Property.canonical)
  · apply Outcome.mapM_map_congr
    intro entry _
    apply Outcome.bind_map_congr (List.map TypeExpr.outline)
    · apply Outcome.mapM_map_congr
      intro part _
      exact alike.infer _ _ _ _
    · intro types others success otherSuccess same
      have single := (alike.leftPlain.of_mapM (fun part => ⟨false, opened, leftDepth + 1, part⟩) success).1
      have otherSingle :=
        (alike.rightPlain.of_mapM (fun part => ⟨false, opened, rightDepth + 1, part⟩) otherSuccess).1
      have sameForm : (TypeExpr.unionOf (TypeExpr.distinctByText leftSettings types)).canonical =
          (TypeExpr.unionOf (TypeExpr.distinctByText rightSettings others)).canonical := by
        rw [TypeExpr.canonical_unionOf_distinctByText single,
          TypeExpr.canonical_unionOf_distinctByText otherSingle, TypeExpr.map_canonical_eq same]
      exact congrArg (fun value => Except.ok (Property.mk entry.1 value false)) sameForm
  · intro properties others _ _ same
    refine congrArg Except.ok ?_
    cases properties with
    | nil =>
        cases others with
        | nil => rfl
        | cons other others => cases same
    | cons property properties =>
        cases others with
        | nil => cases same
        | cons other others => exact TypeExpr.outline_object_eq leftDepth rightDepth same

theorem array_alike (leftDepth rightDepth : Int) (node : Node) :
    (array graph leftSettings left opened leftDepth node).map TypeExpr.outline =
      (array graph rightSettings right opened rightDepth node).map TypeExpr.outline := by
  unfold array
  rw [Outcome.map_bind, Outcome.map_bind]
  apply Outcome.bind_congr
  intro elements _
  split
  · rfl
  · rename_i nonempty
    exact ArrayUnion.ofKind_alike alike sameMode leftDepth rightDepth (by simpa using nonempty) _

theorem value_alike (leftDepth rightDepth : Int) (target : Value) :
    (value graph leftSettings left opened leftDepth target).map TypeExpr.outline =
      (value graph rightSettings right opened rightDepth target).map TypeExpr.outline := by
  cases target with
  | leaf leaf => rfl
  | container address =>
      simp only [value]
      cases graph.node? address with
      | none => rfl
      | some node =>
          dsimp only
          split
          · rfl
          · split
            · exact object_alike alike leftDepth rightDepth node
            · exact array_alike alike sameMode leftDepth rightDepth node

theorem contribution_alike (leftDepth rightDepth : Int) (target : Value) :
    (contribution graph leftSettings left opened leftDepth target).map TypeExpr.outline =
      (contribution graph rightSettings right opened rightDepth target).map TypeExpr.outline := by
  cases target with
  | leaf leaf => rfl
  | container address =>
      simp only [contribution]
      cases graph.node? address with
      | none => rfl
      | some node =>
          dsimp only
          split
          · rfl
          · split
            · apply Outcome.bind_map_congr TypeExpr.outline
              · exact Merge.shapes_alike alike leftDepth rightDepth node.members
              · intro shape other _ _ same
                exact congrArg Except.ok (TypeExpr.outline_array_eq same)
            · split
              · exact Merge.shapes_alike alike leftDepth rightDepth [.container address]
              · exact array_alike alike sameMode leftDepth rightDepth node

end Inference

end Alike

namespace Inference

variable (graph : Graph)

theorem plain_typer (settings : Settings) (budget : Nat) : (typer graph settings budget).Plain := by
  intro call type answer
  refine answer_induction (fun _ type => type.Single ∧ type.SpansByParts) ?_ budget answer
  intro budget call type built
  exact ⟨built.single fun _ _ part => part.2.1, built.spansByParts fun _ _ part => part.2.1⟩

/-- Typers with settings of the same mode answer alike. -/
theorem alike_typer {left right : Settings} (sameMode : left.mode = right.mode) (budget : Nat) :
    (typer graph left budget).Alike (typer graph right budget) := by
  induction budget with
  | zero =>
      exact {
        leftPlain := plain_typer graph left 0
        rightPlain := plain_typer graph right 0
        infer := fun _ _ _ _ => rfl
        contribute := fun _ _ _ _ => rfl }
  | succ budget induction =>
      exact {
        leftPlain := plain_typer graph left (budget + 1)
        rightPlain := plain_typer graph right (budget + 1)
        infer := fun _ => value_alike induction sameMode
        contribute := fun _ => contribution_alike induction sameMode }

end Inference

namespace Graph

/-- The outline of an inferred type depends on no setting but the mode, and not on the depth. -/
theorem infer_outline_eq (graph : Graph) (left right : Settings) (sameMode : left.mode = right.mode)
    (value : Value) (leftDepth rightDepth : Int) :
    (graph.infer left value leftDepth).map TypeExpr.outline =
      (graph.infer right value rightDepth).map TypeExpr.outline :=
  (Inference.alike_typer graph sameMode _).infer [] leftDepth rightDepth value

/-- The style of arrays decides about the layout and the order and repetition of members only.  Either the
contents of a container inside the value cannot be listed, in whatever style, or the types in both styles have
the same canonical form, span lines alike and hold the same values, and they are equal up to order unless a
union in one of them repeats a member in another order. -/
theorem infer_in_both_styles (graph : Graph) (settings : Settings) (value : Value) (depth : Int) :
    (∃ bracketed generic,
        graph.infer { settings with arrayStyle := .brackets } value depth = .ok bracketed ∧
        graph.infer { settings with arrayStyle := .generic } value depth = .ok generic ∧
        bracketed.canonical = generic.canonical ∧ bracketed.spansLines = generic.spansLines ∧
        (∀ (other : Graph) (part : Value),
          bracketed.InhabitedBy other part ↔ generic.InhabitedBy other part) ∧
        (bracketed.Irredundant → generic.Irredundant → bracketed.EqualUpToOrder generic)) ∨
      ∃ fault, graph.infer { settings with arrayStyle := .brackets } value depth = .error fault ∧
        graph.infer { settings with arrayStyle := .generic } value depth = .error fault ∧
        graph.FailsBelow value fault := by
  have alike := graph.infer_outline_eq { settings with arrayStyle := .brackets }
    { settings with arrayStyle := .generic } rfl value depth depth
  rcases infer_cases graph { settings with arrayStyle := .brackets } value depth with
    ⟨bracketed, inferred⟩ | ⟨fault, failed, failsBelow⟩
  · left
    cases genericInferred : graph.infer { settings with arrayStyle := .generic } value depth with
    | error fault =>
        rw [inferred, genericInferred] at alike
        cases alike
    | ok generic =>
        rw [inferred, genericInferred] at alike
        obtain ⟨sameForm, sameLines⟩ := Prod.mk.inj (Except.ok.inj alike)
        have regular := regular_of_infer inferred
        have genericRegular := regular_of_infer genericInferred
        refine ⟨bracketed, generic, inferred, rfl, sameForm, sameLines, ?_, ?_⟩
        · intro other part
          rw [← TypeExpr.inhabitedBy_canonical_iff bracketed regular part, sameForm,
            TypeExpr.inhabitedBy_canonical_iff generic genericRegular part]
        · intro irredundant genericIrredundant
          exact (TypeExpr.equalUpToOrder_iff regular genericRegular irredundant genericIrredundant).mpr
            sameForm
  · right
    cases genericInferred : graph.infer { settings with arrayStyle := .generic } value depth with
    | error other =>
        rw [failed, genericInferred] at alike
        cases alike
        exact ⟨fault, failed, rfl, failsBelow⟩
    | ok generic =>
        rw [failed, genericInferred] at alike
        cases alike

/-- Lists of numbers and empty lists, at different depths: `[[[1, []]], [[1, []], 1]]`. -/
def nestedRows : Graph :=
  ⟨#[.sequence .list [.container 1, .container 3], .sequence .list [.container 2],
    .sequence .list [.leaf (.integer 1), .container 4], .sequence .list [.container 2, .leaf (.integer 1)],
    .sequence .list []]⟩

/-- The union of numbers and empty lists is sorted in one place and in the order of appearance in another.  Only
in one style these are the same order, so in the other one the union around them repeats a member. -/
example :
    let number := TypeExpr.primitive "number"
    let rows := TypeExpr.array (.union [number, .emptyArray] 0 false)
    let sortedRows := TypeExpr.array (.union [.emptyArray, number] 0 false)
    nestedRows.infer {} (.container 0) = .ok (.array (.array (.union [rows, number] 0 false))) ∧
      nestedRows.infer { arrayStyle := .generic } (.container 0) =
        .ok (.array (.array (.union [sortedRows, rows, number] 0 false))) := by
  decide +kernel

end Graph

end SampleTypes
