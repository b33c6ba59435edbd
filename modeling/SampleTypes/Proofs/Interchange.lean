import SampleTypes.Proofs.Arrangement
import SampleTypes.Proofs.InferredTypes

/-!
# Graphs that are typed alike

The type of a value depends on the entries and the elements that containers have, and on the text of a type
only, so a container may be interchanged with one that has the same.  Where objects are merged their order does
not matter, and the elements of an array that are merged where the array is a value of a merged object may come
in any order.
-/

namespace SampleTypes

namespace TypeExpr

variable {settings : Settings} {left right : TypeExpr} {types others : List TypeExpr}

/-- Two types differ in no more than what leaves no trace in a text. -/
def Alike (settings : Settings) (left right : TypeExpr) : Prop :=
  left.normal settings = right.normal settings

theorem Alike.render_eq (alike : left.Alike settings right) : left.render settings = right.render settings := by
  rw [← render_normal settings left, alike, render_normal]

theorem Alike.spansLines_eq (alike : left.Alike settings right) : left.spansLines = right.spansLines := by
  calc
    left.spansLines = (left.normal settings).spansLines := (spansLines_mapDepths left).symm
    _ = (right.normal settings).spansLines := by rw [alike]
    _ = right.spansLines := spansLines_mapDepths right

theorem Alike.array (alike : left.Alike settings right) : (array left).Alike settings (.array right) :=
  congrArg TypeExpr.array alike

theorem normalMembers_eq_map (members : List TypeExpr) :
    normalMembers settings members = members.map (normal settings) :=
  mapDepthsMembers_eq_map members

theorem Alike.variants (alike : left.Alike settings right) :
    (ArrayUnion.variants left).map (normal settings) = (ArrayUnion.variants right).map (normal settings) := by
  have variants_normal (type : TypeExpr) :
      (ArrayUnion.variants type).map (normal settings) = ArrayUnion.variants (type.normal settings) := by
    cases type with
    | union members depth multiline => exact (normalMembers_eq_map members).symm
    | _ => rfl
  rw [variants_normal, alike, variants_normal]

theorem map_normal_eq_of_forall₂ (alike : List.Forall₂ (Alike settings) types others) :
    types.map (normal settings) = others.map (normal settings) := by
  rw [← List.forall₂_eq_eq_eq, List.forall₂_map_left_iff, List.forall₂_map_right_iff]
  exact alike

theorem mem_map_normal_iff_of_matched (matched : Outcome.Matched (Alike settings) types others) (form : TypeExpr) :
    form ∈ types.map (normal settings) ↔ form ∈ others.map (normal settings) := by
  rw [List.mem_map, List.mem_map]
  constructor
  · rintro ⟨type, member, same⟩
    obtain ⟨other, otherMember, alike⟩ := matched.1 type member
    exact ⟨other, otherMember, alike.symm.trans same⟩
  · rintro ⟨other, member, same⟩
    obtain ⟨type, typeMember, alike⟩ := matched.2 other member
    exact ⟨type, typeMember, Eq.trans alike same⟩

theorem any_spansLines_normal (settings : Settings) (types : List TypeExpr) :
    (types.map (normal settings)).any (·.spansLines) = types.any (·.spansLines) := by
  rw [List.any_map]
  simp only [Function.comp_def, normal, spansLines_mapDepths]

section Unions

theorem distinctByText_normal (types : List TypeExpr) :
    distinctByText settings (types.map (normal settings)) = (distinctByText settings types).map (normal settings) := by
  apply distinctByText_map strictMono_id
  intro type _
  exact render_normal settings type

theorem unionOf_normal (members : List TypeExpr) :
    unionOf (members.map (normal settings)) = (unionOf members).normal settings :=
  unionOf_mapDepths rfl members

theorem sortedUnion_normal (types : List TypeExpr) :
    sortedUnion settings (types.map (normal settings)) = (sortedUnion settings types).normal settings := by
  have sorted : sortedByText settings (types.map (normal settings)) =
      (sortedByText settings types).map (normal settings) := by
    apply sortedByText_map strictMono_id
    intro type _
    exact render_normal settings type
  rw [sortedUnion_eq, sorted, unionOf_normal, sortedUnion_eq]

theorem alike_unionOf_distinctByText (same : types.map (normal settings) = others.map (normal settings)) :
    (unionOf (distinctByText settings types)).Alike settings (unionOf (distinctByText settings others)) := by
  rw [Alike, ← unionOf_normal, ← unionOf_normal, ← distinctByText_normal, ← distinctByText_normal, same]

/-- Normal forms are told apart by their texts. -/
theorem toldApart_map_normal (regular : ∀ type ∈ types, type.Regular) :
    ToldApart settings (types.map (normal settings)) := by
  intro left leftMember right rightMember same
  obtain ⟨first, firstMember, rfl⟩ := List.mem_map.mp leftMember
  obtain ⟨second, secondMember, rfl⟩ := List.mem_map.mp rightMember
  rw [render_normal, render_normal] at same
  exact normal_eq_of_render_eq settings (regular first firstMember) (regular second secondMember) same

/-- A sorted union depends only on which types there are, as far as their texts tell. -/
theorem alike_sortedUnion (regular : ∀ type ∈ types, type.Regular)
    (sameForms : ∀ form, form ∈ types.map (normal settings) ↔ form ∈ others.map (normal settings)) :
    (sortedUnion settings types).Alike settings (sortedUnion settings others) := by
  rw [Alike, ← sortedUnion_normal, ← sortedUnion_normal, (toldApart_map_normal regular).sortedUnion_eq sameForms]

theorem alike_arrayOfArrays (single : ∀ type ∈ types, type.Single)
    (sameForms : ∀ form, form ∈ types.map (normal settings) ↔ form ∈ others.map (normal settings)) :
    (ArrayUnion.arrayOfArrays settings types).Alike settings (ArrayUnion.arrayOfArrays settings others) := by
  have mem_parts_iff (types : List TypeExpr) (form : TypeExpr) :
      form ∈ (types.flatMap unwrapArray).map (normal settings) ↔
        ∃ whole ∈ types.map (normal settings), form ∈ whole.unwrapArray := by
    rw [List.map_flatMap, List.mem_flatMap]
    constructor
    · rintro ⟨type, member, isPart⟩
      refine ⟨type.normal settings, List.mem_map_of_mem member, ?_⟩
      rwa [normal, unwrapArray_mapDepths]
    · rintro ⟨whole, wholeMember, isPart⟩
      obtain ⟨type, member, rfl⟩ := List.mem_map.mp wholeMember
      rw [normal, unwrapArray_mapDepths] at isPart
      exact ⟨type, member, isPart⟩
  apply Alike.array
  apply Alike.array
  apply alike_sortedUnion fun part member => (single_flatMap_unwrapArray single part member).2
  intro form
  rw [mem_parts_iff, mem_parts_iff]
  simp only [sameForms]

end Unions

end TypeExpr

/-- A property as far as its text tells. -/
def Property.normal (settings : Settings) (property : Property TypeExpr) : Property TypeExpr :=
  ⟨property.key, property.value.normal settings, property.optional⟩

theorem TypeExpr.alike_object {settings : Settings} {properties others : List (Property TypeExpr)}
    (same : List.Forall₂ (fun left right => left.normal settings = right.normal settings) properties others)
    (depth : Int) : (object properties depth).Alike settings (object others depth) := by
  rw [← List.forall₂_map_right_iff, ← List.forall₂_map_left_iff, List.forall₂_eq_eq_eq] at same
  rw [Alike, normal_object, normal_object, normalProperties, normalProperties, mapDepthsProperties_eq_map,
    mapDepthsProperties_eq_map]
  exact congrArg (TypeExpr.object · (settings.level depth)) same

/-- A container of one graph has the same entries as one of another graph, and the same elements in the order in
which they are typed. -/
structure Node.Interchanges (left right : Graph) (leftNode rightNode : Node) : Prop where
  isObject : leftNode.isObject = rightNode.isObject
  isTrue : leftNode.isTrue = rightNode.isTrue
  members : ∀ element, element ∈ leftNode.members ↔ element ∈ rightNode.members
  entries : left.entriesOfNode leftNode = right.entriesOfNode rightNode
  elements : Outcome.Agree Eq (left.elements leftNode) (right.elements rightNode)

/-- Two graphs have containers at the same addresses, and containers at the same address are related. -/
def Graph.Corresponds (left : Graph) (related : Node → Node → Prop) (right : Graph) : Prop :=
  ∀ address, Option.Rel related (left.node? address) (right.node? address)

theorem Graph.Corresponds.node?_cases {left right : Graph} {related : Node → Node → Prop}
    (nodes : left.Corresponds related right) (address : Address) :
    (left.node? address = none ∧ right.node? address = none) ∨
      ∃ leftNode rightNode, left.node? address = some leftNode ∧ right.node? address = some rightNode ∧
        related leftNode rightNode := by
  have found := nodes address
  generalize left.node? address = leftNode at found ⊢
  generalize right.node? address = rightNode at found ⊢
  cases found with
  | some related => exact .inr ⟨_, _, rfl, rfl, related⟩
  | none => exact .inl ⟨rfl, rfl⟩

theorem Graph.Corresponds.size_eq {left right : Graph} {related : Node → Node → Prop}
    (nodes : left.Corresponds related right) : left.nodes.size = right.nodes.size := by
  have sameEnd (size : Nat) : left.nodes.size ≤ size ↔ right.nodes.size ≤ size := by
    rw [← Array.getElem?_eq_none_iff, ← Array.getElem?_eq_none_iff]
    change left.node? size = none ↔ right.node? size = none
    rcases nodes.node?_cases size with ⟨leftNone, rightNone⟩ | ⟨_, _, isLeft, isRight, -⟩
    · rw [leftNone, rightNone]
    · rw [isLeft, isRight]
      exact ⟨nofun, nofun⟩
  exact Nat.le_antisymm ((sameEnd _).mpr (Nat.le_refl _)) ((sameEnd _).mp (Nat.le_refl _))

/-- Each container of one graph interchanges with the one at the same address of another graph. -/
def Graph.Interchanges (left right : Graph) : Prop :=
  left.Corresponds (Node.Interchanges left right) right

namespace Graph.Interchanges

variable {left right : Graph} (interchanges : left.Interchanges right)
include interchanges

theorem isObject_eq (value : Value) : left.isObject value = right.isObject value := by
  cases value with
  | leaf leaf => rfl
  | container address =>
      simp only [Graph.isObject, nodeOf?]
      rcases Corresponds.node?_cases interchanges address with ⟨leftNone, rightNone⟩ | ⟨_, _, isLeft, isRight, nodes⟩
      · rw [leftNone, rightNone]
      · rw [isLeft, isRight]
        exact nodes.isObject

theorem isArray_eq (value : Value) : left.isArray value = right.isArray value := by
  cases value with
  | leaf leaf => rfl
  | container address =>
      simp only [Graph.isArray]
      rcases Corresponds.node?_cases interchanges address with ⟨leftNone, rightNone⟩ | ⟨_, _, isLeft, isRight, nodes⟩
      · rw [leftNone, rightNone]
      · rw [isLeft, isRight]
        exact congrArg not nodes.isObject

theorem entries_eq (value : Value) : left.entries value = right.entries value := by
  cases value with
  | leaf leaf => cases leaf <;> rfl
  | container address =>
      simp only [Graph.entries, nodeOf?]
      rcases Corresponds.node?_cases interchanges address with ⟨leftNone, rightNone⟩ | ⟨_, _, isLeft, isRight, nodes⟩
      · rw [leftNone, rightNone]
      · rw [isLeft, isRight]
        exact nodes.entries

theorem ofElements_eq (opened : List Address) (elements : List Value) :
    ArrayKind.ofElements left opened elements = ArrayKind.ofElements right opened elements := by
  have sameArrays : left.isArray = right.isArray := funext interchanges.isArray_eq
  have sameObjects : left.isObject = right.isObject := funext interchanges.isObject_eq
  rw [ArrayKind.ofElements, ArrayKind.ofElements, sameArrays, sameObjects]

theorem isMergedArray_eq {opened : List Address} {leftNode rightNode : Node}
    (nodes : leftNode.Interchanges left right rightNode) :
    Inference.isMergedArray left opened leftNode = Inference.isMergedArray right opened rightNode := by
  have sameObjects : left.isObject = right.isObject := funext interchanges.isObject_eq
  rw [Inference.isMergedArray, Inference.isMergedArray, nodes.isObject, nodes.isTrue, sameObjects,
    List.all_eq_of_mem_iff nodes.members]

end Graph.Interchanges

/-- Two typers whose answers are alike, or are both faults. -/
structure Typer.Interchanges (settings : Settings) (left right : Typer) : Prop where
  single {call : Call} {type : TypeExpr} (answer : left.Answers call type) : type.Single
  infer (opened : List Address) (depth : Int) (value : Value) :
    Outcome.Agree (TypeExpr.Alike settings) (left.infer opened depth value) (right.infer opened depth value)
  contribute (opened : List Address) (depth : Int) (value : Value) :
    Outcome.Agree (TypeExpr.Alike settings) (left.contribute opened depth value)
      (right.contribute opened depth value)

section Steps

variable {leftGraph rightGraph : Graph} {settings : Settings} {left right : Typer} {opened : List Address}
  {depth : Int}

/-- Types that a typer gives to some values may stand for them. -/
theorem Typer.Interchanges.single_of_mapM (typers : left.Interchanges settings right) {α : Type} {items : List α}
    {types : List TypeExpr} (call : α → Call)
    (success : (items.mapM fun item => left.answer (call item)) = .ok types) : ∀ type ∈ types, type.Single :=
  each_of_forall₂ (Outcome.mapM_eq_ok_iff.mp success) fun _ _ answer => typers.single answer

namespace Merge

theorem describe_agree (graphs : leftGraph.Interchanges rightGraph) {objects others : List Value}
    (same : ∀ object, object ∈ objects ↔ object ∈ others) :
    Outcome.Agree (fun lefts rights => ∀ description, description ∈ lefts ↔ description ∈ rights)
      (describe leftGraph objects) (describe rightGraph others) := by
  have each : ∀ object ∈ objects,
      Outcome.Agree Eq (do return Described.mk object (← leftGraph.entries object))
        (do return Described.mk object (← rightGraph.entries object)) := by
    intro object _
    rw [graphs.entries_eq]
    exact Outcome.agree_self
  apply (Outcome.mapM_agree_of_mem_iff same each).imp
  intro lefts rights matched description
  constructor
  · intro member
    obtain ⟨other, otherMember, rfl⟩ := matched.1 description member
    exact otherMember
  · intro member
    obtain ⟨other, otherMember, rfl⟩ := matched.2 description member
    exact otherMember

section Described

variable {lefts rights : List Described} (same : ∀ description, description ∈ lefts ↔ description ∈ rights)
include same

theorem keys_eq : keys lefts = keys rights := by
  apply TextIndex.texts_eq
  intro text
  simp only [List.mem_flatMap, same]

theorem mem_contributors_iff_of_same (key : String) (contributor : Value × Value) :
    contributor ∈ contributors lefts key ↔ contributor ∈ contributors rights key := by
  simp only [contributors, List.mem_flatMap, same]

theorem property_agree (typers : left.Interchanges settings right) (key : String) :
    Outcome.Agree (fun property other => property.normal settings = other.normal settings)
      (property settings left opened depth lefts key) (property settings right opened depth rights key) := by
  have sameOptional := List.all_eq_of_mem_iff same (·.hasKey key)
  unfold property
  rw [contributions_eq_mapM, contributions_eq_mapM]
  apply (Outcome.mapM_agree_of_mem_iff (mem_contributors_iff_of_same same key)
    fun contributor _ => typers.contribute _ _ _).bind
  intro types others success _ matched
  have single := typers.single_of_mapM
    (fun contributor : Value × Value => ⟨true, contributor.1.open opened, depth + 1, contributor.2⟩) success
  have alike : (TypeExpr.sortedUnion settings types).Alike settings (TypeExpr.sortedUnion settings others) :=
    TypeExpr.alike_sortedUnion (fun type member => (single type member).2)
      (TypeExpr.mem_map_normal_iff_of_matched matched)
  refine .ok ?_
  rw [Property.normal, Property.normal, sameOptional, alike]

end Described

/-- A merged shape depends only on which objects there are. -/
theorem shapes_agree (graphs : leftGraph.Interchanges rightGraph) (typers : left.Interchanges settings right)
    {objects others : List Value} (same : ∀ object, object ∈ objects ↔ object ∈ others) :
    Outcome.Agree (TypeExpr.Alike settings) (shapes leftGraph settings left opened depth objects)
      (shapes rightGraph settings right opened depth others) := by
  unfold shapes
  rw [List.isEmpty_eq_of_mem_iff same]
  split
  · exact .ok rfl
  · apply (describe_agree graphs same).bind
    intro lefts rights _ _ sameDescribed
    dsimp only
    rw [keys_eq sameDescribed]
    split
    · exact .ok rfl
    · apply (Outcome.mapM_agree fun key _ => property_agree sameDescribed typers key).bind
      intro properties otherProperties _ _ sameProperties
      exact .ok (TypeExpr.alike_object sameProperties depth)

end Merge

namespace ArrayUnion

variable (typers : left.Interchanges settings right)
include typers

theorem distinctShapes_agree (elements : List Value) :
    Outcome.Agree (TypeExpr.Alike settings) (distinctShapes settings left opened depth elements)
      (distinctShapes settings right opened depth elements) := by
  cases elements with
  | nil => exact .ok rfl
  | cons first rest =>
      rw [distinctShapes_cons, distinctShapes_cons]
      apply (Outcome.mapM_agree fun element _ => typers.infer opened (depth + 1) element).bind
      intro types others _ _ alike
      have sameShapes : (TypeExpr.distinctByText settings types).map (TypeExpr.normal settings) =
          (TypeExpr.distinctByText settings others).map (TypeExpr.normal settings) := by
        rw [← TypeExpr.distinctByText_normal, ← TypeExpr.distinctByText_normal,
          TypeExpr.map_normal_eq_of_forall₂ alike]
      have sameLength := congrArg List.length sameShapes
      rw [List.length_map, List.length_map] at sameLength
      rw [sameLength]
      split
      · exact typers.infer opened depth first
      · refine .ok ?_
        rw [TypeExpr.Alike, TypeExpr.normal_union, TypeExpr.normal_union, TypeExpr.normalMembers_eq_map,
          TypeExpr.normalMembers_eq_map, ← TypeExpr.any_spansLines_normal settings, sameShapes,
          TypeExpr.any_spansLines_normal]

theorem ofArrays_agree {elements : List Value} (nonempty : elements ≠ []) :
    Outcome.Agree (TypeExpr.Alike settings) (ofArrays settings left opened depth elements)
      (ofArrays settings right opened depth elements) := by
  unfold ofArrays
  cases settings.mode with
  | merge =>
      apply (Outcome.mapM_agree fun element _ => typers.infer opened (depth + 1) element).bind
      intro types others success _ alike
      have single := typers.single_of_mapM (fun element => ⟨false, opened, depth + 1, element⟩) success
      refine .ok (TypeExpr.alike_arrayOfArrays single ?_)
      intro form
      rw [TypeExpr.map_normal_eq_of_forall₂ alike]
  | union =>
      apply (distinctShapes_agree typers elements).bind
      intro shapes others success _ alike
      rw [alike.spansLines_eq]
      split
      · exact .ok alike.array
      · have built := buildsShapes_of_distinctShapes success
        have single := (built.variants_single (fun _ _ answer => typers.single answer) nonempty).2
        refine .ok (TypeExpr.alike_arrayOfArrays single ?_)
        intro form
        rw [alike.variants]

theorem ofObjects_agree (graphs : leftGraph.Interchanges rightGraph) (elements : List Value) :
    Outcome.Agree (TypeExpr.Alike settings) (ofObjects leftGraph settings left opened depth elements)
      (ofObjects rightGraph settings right opened depth elements) := by
  unfold ofObjects
  cases settings.mode with
  | merge =>
      apply (Merge.shapes_agree graphs typers fun _ => Iff.rfl).bind
      intro shape other _ _ alike
      exact .ok alike.array
  | union =>
      apply (distinctShapes_agree typers elements).bind
      intro shapes others _ _ alike
      exact .ok alike.array

theorem ofMixed_agree (graphs : leftGraph.Interchanges rightGraph) (elements : List Value) :
    Outcome.Agree (TypeExpr.Alike settings) (ofMixed leftGraph settings left opened depth elements)
      (ofMixed rightGraph settings right opened depth elements) := by
  unfold ofMixed
  have each : ∀ element ∈ elements, Outcome.Agree (TypeExpr.Alike settings)
      (if settings.mode = .merge ∧ leftGraph.isObject element then left.contribute opened (depth + 1) element
        else left.infer opened (depth + 1) element)
      (if settings.mode = .merge ∧ rightGraph.isObject element then right.contribute opened (depth + 1) element
        else right.infer opened (depth + 1) element) := by
    intro element _
    rw [graphs.isObject_eq]
    split
    · exact typers.contribute _ _ _
    · exact typers.infer _ _ _
  apply (Outcome.mapM_agree each).bind
  intro types others _ _ alike
  exact .ok (TypeExpr.alike_unionOf_distinctByText (TypeExpr.map_normal_eq_of_forall₂ alike)).array

theorem ofKind_agree (graphs : leftGraph.Interchanges rightGraph) (kind : ArrayKind) {elements : List Value}
    (nonempty : elements ≠ []) :
    Outcome.Agree (TypeExpr.Alike settings) (ofKind leftGraph settings left opened depth kind elements)
      (ofKind rightGraph settings right opened depth kind elements) := by
  cases kind with
  | arrays => exact ofArrays_agree typers nonempty
  | objects => exact ofObjects_agree typers graphs elements
  | mixed => exact ofMixed_agree typers graphs elements

end ArrayUnion

namespace Inference

variable (graphs : leftGraph.Interchanges rightGraph) (typers : left.Interchanges settings right)
include graphs typers

omit graphs in
theorem object_agree {leftNode rightNode : Node}
    (nodes : leftNode.Interchanges leftGraph rightGraph rightNode) :
    Outcome.Agree (TypeExpr.Alike settings) (object leftGraph settings left opened depth leftNode)
      (object rightGraph settings right opened depth rightNode) := by
  unfold object
  rw [nodes.entries]
  apply Outcome.agree_self.bind
  rintro entries _ _ _ rfl
  have each : ∀ entry ∈ entries, Outcome.Agree
      (fun property other : Property TypeExpr => property.normal settings = other.normal settings)
      (do
        let types ← entry.2.mapM (left.infer opened (depth + 1))
        return ⟨entry.1, .unionOf (TypeExpr.distinctByText settings types), false⟩)
      (do
        let types ← entry.2.mapM (right.infer opened (depth + 1))
        return ⟨entry.1, .unionOf (TypeExpr.distinctByText settings types), false⟩) := by
    intro entry _
    apply (Outcome.mapM_agree fun part _ => typers.infer opened (depth + 1) part).bind
    intro types others _ _ alike
    refine .ok ?_
    have sameUnion := TypeExpr.alike_unionOf_distinctByText (TypeExpr.map_normal_eq_of_forall₂ alike)
    rw [Property.normal, Property.normal, sameUnion]
  apply (Outcome.mapM_agree each).bind
  intro properties others _ _ same
  refine .ok ?_
  cases same with
  | nil => rfl
  | cons first later => exact TypeExpr.alike_object (.cons first later) depth

theorem array_agree {leftNode rightNode : Node}
    (nodes : leftNode.Interchanges leftGraph rightGraph rightNode) :
    Outcome.Agree (TypeExpr.Alike settings) (array leftGraph settings left opened depth leftNode)
      (array rightGraph settings right opened depth rightNode) := by
  unfold array
  apply nodes.elements.bind
  rintro elements _ _ _ rfl
  split
  · exact .ok rfl
  · rename_i nonempty
    rw [graphs.ofElements_eq]
    exact ArrayUnion.ofKind_agree typers graphs _ (by simpa using nonempty)

theorem value_agree (target : Value) :
    Outcome.Agree (TypeExpr.Alike settings) (value leftGraph settings left opened depth target)
      (value rightGraph settings right opened depth target) := by
  cases target with
  | leaf leaf => exact .ok rfl
  | container address =>
      simp only [value]
      rcases Graph.Corresponds.node?_cases graphs address with ⟨leftNone, rightNone⟩ | ⟨_, _, isLeft, isRight, nodes⟩
      · rw [leftNone, rightNone]
        exact .ok rfl
      · rw [isLeft, isRight]
        dsimp only
        rw [nodes.isObject]
        split
        · exact .ok rfl
        · split
          · exact object_agree typers nodes
          · exact array_agree graphs typers nodes

theorem contribution_agree (target : Value) :
    Outcome.Agree (TypeExpr.Alike settings) (contribution leftGraph settings left opened depth target)
      (contribution rightGraph settings right opened depth target) := by
  cases target with
  | leaf leaf => exact .ok rfl
  | container address =>
      simp only [contribution]
      rcases Graph.Corresponds.node?_cases graphs address with ⟨leftNone, rightNone⟩ | ⟨_, _, isLeft, isRight, nodes⟩
      · rw [leftNone, rightNone]
        exact .ok rfl
      · rw [isLeft, isRight]
        dsimp only
        rw [nodes.isObject, graphs.isMergedArray_eq nodes]
        split
        · exact .ok rfl
        · split
          · apply (Merge.shapes_agree graphs typers nodes.members).bind
            intro shape other _ _ alike
            exact .ok alike.array
          · split
            · exact Merge.shapes_agree graphs typers fun _ => Iff.rfl
            · exact array_agree graphs typers nodes

end Inference

end Steps

namespace Graph

variable {left right : Graph} (interchanges : left.Interchanges right) (settings : Settings)
include interchanges

theorem Interchanges.typers (budget : Nat) :
    (Inference.typer left settings budget).Interchanges settings (Inference.typer right settings budget) := by
  induction budget with
  | zero =>
      exact {
        single := Inference.single_of_answer
        infer := fun _ _ _ => .error _ _
        contribute := fun _ _ _ => .error _ _ }
  | succ budget induction =>
      exact {
        single := Inference.single_of_answer
        infer := fun _ _ => Inference.value_agree interchanges induction
        contribute := fun _ _ => Inference.contribution_agree interchanges induction }

/-- Graphs that interchange give a value the same text, or both give it none. -/
theorem Interchanges.inferText_agree (value : Value) (depth : Int) :
    Outcome.Agree Eq (left.inferText settings value depth) (right.inferText settings value depth) := by
  have types := (interchanges.typers settings (left.nodes.size + 1)).infer [] depth value
  unfold inferText infer typer
  rw [← Corresponds.size_eq interchanges]
  apply types.bind
  intro type other _ _ alike
  exact .ok alike.render_eq

end Graph

end SampleTypes
