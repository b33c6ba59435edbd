import SampleTypes.Proofs.InferredPlaces

/-!
# Well-made types

Inferred types are regular and their unions tell their members apart by text.  This module adds where unions
stand: a union on a single line is at depth zero, and a union on several lines is the element of an array and has
a member that needs them.  No key stands twice in an object.
-/

namespace SampleTypes

namespace TypeExpr

mutual

/-- Whether the unions and the objects in a type are well made, where the type is the element of an array or not.
A union on a single line is at depth zero, a union on several lines is an element and some member spans lines, and
the keys of an object are different. -/
def WellMade : (inArray : Bool) → TypeExpr → Prop
  | _, .primitive _ | _, .callable | _, .circular => True
  | _, .record value => value.WellMade false
  | _, .array element => element.WellMade true
  | _, .object properties _ => (properties.map (·.key)).Nodup ∧ PropertiesWellMade properties
  | inArray, .union members depth multiline =>
      (if multiline then inArray = true ∧ ∃ member ∈ members, member.spansLines = true else depth = 0) ∧
        MembersWellMade members

def MembersWellMade : List TypeExpr → Prop
  | [] => True
  | member :: members => member.WellMade false ∧ MembersWellMade members

def PropertiesWellMade : List (Property TypeExpr) → Prop
  | [] => True
  | ⟨_, value, _⟩ :: properties => value.WellMade false ∧ PropertiesWellMade properties

end

theorem membersWellMade_iff {members : List TypeExpr} :
    MembersWellMade members ↔ ∀ member ∈ members, member.WellMade false := by
  induction members with
  | nil => simp [MembersWellMade]
  | cons member members induction => simp [MembersWellMade, induction]

theorem propertiesWellMade_iff {properties : List (Property TypeExpr)} :
    PropertiesWellMade properties ↔ ∀ property ∈ properties, property.value.WellMade false := by
  induction properties with
  | nil => simp [PropertiesWellMade]
  | cons property properties induction => simp [PropertiesWellMade, induction]

section WellMade

variable {settings : Settings} {types : List TypeExpr} {type : TypeExpr}

/-- What is well made elsewhere is well made as an element. -/
theorem WellMade.element (wellMade : type.WellMade false) : type.WellMade true := by
  cases type with
  | union members depth multiline =>
      cases multiline with
      | false => exact wellMade
      | true => cases wellMade.1.1
  | _ => exact wellMade

/-- Only for a union does it matter whether it is an element. -/
theorem WellMade.ofElement (wellMade : type.WellMade true) (noUnion : type.isUnion = false) :
    type.WellMade false := by
  cases type with
  | union members depth multiline => cases noUnion
  | _ => exact wellMade

theorem wellMade_unionOf (each : ∀ type ∈ types, type.WellMade false) : (unionOf types).WellMade false := by
  rcases unionOf_cases types 0 false with ⟨member, rfl, same⟩ | ⟨-, same⟩
  · rw [same]
    exact each member List.mem_cons_self
  · rw [same]
    exact ⟨rfl, membersWellMade_iff.mpr each⟩

theorem wellMade_unionOf_distinctByText (each : ∀ type ∈ types, type.WellMade false) :
    (unionOf (distinctByText settings types)).WellMade false := by
  apply wellMade_unionOf
  intro type member
  exact each type ((represents_distinctByText settings types).mem_of_mem type member)

theorem wellMade_sortedUnion (each : ∀ type ∈ types, type.WellMade false) :
    (sortedUnion settings types).WellMade false := by
  rw [sortedUnion_eq]
  apply wellMade_unionOf
  intro type member
  exact each type ((represents_sortedByText settings types).mem_of_mem type member)

theorem WellMade.unwrapArray (wellMade : type.WellMade false) :
    ∀ part ∈ type.unwrapArray, part.WellMade false := by
  unfold TypeExpr.unwrapArray
  split
  · exact membersWellMade_iff.mp wellMade.2
  · rename_i element noUnion
    intro part member
    rw [List.mem_singleton.mp member]
    apply WellMade.ofElement wellMade
    cases element with
    | union members depth multiline => exact absurd rfl (noUnion members depth multiline)
    | _ => rfl
  · intro part member
    rw [List.mem_singleton.mp member]
    exact wellMade

theorem wellMade_arrayOfArrays (each : ∀ type ∈ types, type.WellMade false) :
    (ArrayUnion.arrayOfArrays settings types).WellMade false := by
  have union : (sortedUnion settings (types.flatMap TypeExpr.unwrapArray)).WellMade false := by
    apply wellMade_sortedUnion
    intro part partMember
    obtain ⟨type, member, isPart⟩ := List.mem_flatMap.mp partMember
    exact (each type member).unwrapArray part isPart
  exact union.element

end WellMade

end TypeExpr

theorem Leaf.wellMade_type (leaf : Leaf) : leaf.type.WellMade false := by
  cases leaf with
  | integer value kind =>
      rw [type]
      split <;> exact trivial
  | _ => exact trivial

/-- The keys of merged objects are in ascending order, so none of them stands twice. -/
theorem Merge.nodup_keys (described : List Described) : (keys described).Nodup :=
  (TextIndex.pairwise_texts _).imp fun less => ne_of_lt less

/-- Properties that are made of keys have these keys. -/
theorem keys_of_forall₂ {α : Type} (key : α → String) {related : α → Property TypeExpr → Prop} {items : List α}
    {properties : List (Property TypeExpr)} (built : List.Forall₂ related items properties)
    (sameKey : ∀ item property, related item property → property.key = key item) :
    properties.map (·.key) = items.map key := by
  rw [← List.forall₂_eq_eq_eq, List.forall₂_map_left_iff, List.forall₂_map_right_iff]
  exact built.flip.imp fun property item => sameKey item property

/-- Merged properties have the keys that they are made for. -/
theorem Merge.keys_of_built {settings : Settings} {typed : Assignment} {opened : List Address} {depth : Int}
    {described : List Described} {names : List String} {properties : List (Property TypeExpr)}
    (built : List.Forall₂ (BuildsProperty settings typed opened depth described) names properties) :
    properties.map (·.key) = names := by
  refine (keys_of_forall₂ id built ?_).trans (List.map_id _)
  rintro key _ ⟨types, -, rfl⟩
  rfl

/-- An assignment of well-made types of which those of objects span lines if they have properties. -/
structure Assignment.WellMade (graph : Graph) (typed : Assignment) : Prop where
  single : ∀ call type, typed call type → type.Single
  object {opened : List Address} {depth : Int} {value : Value} {type : TypeExpr}
    (isObject : graph.isObject value = true) (notOpen : value.isOpen opened = false)
    (assigned : typed ⟨false, opened, depth, value⟩ type) : type = .emptyObject ∨ type.spansLines = true
  wellMade : ∀ call type, typed call type → type.WellMade false

section Step

variable {graph : Graph} {settings : Settings} {typed : Assignment} {opened : List Address} {depth : Int}
  {elements : List Value}

theorem Merge.Builds.wellMade (parts : typed.WellMade graph) {objects : List Value} {type : TypeExpr}
    (built : Merge.Builds graph settings typed opened depth objects type) : type.WellMade false := by
  cases built with
  | nothing | noKeys => exact trivial
  | @properties _ described properties nonempty describing someKeys built =>
      refine ⟨?_, TypeExpr.propertiesWellMade_iff.mpr ?_⟩
      · rw [keys_of_built built]
        exact nodup_keys described
      · intro property member
        obtain ⟨key, -, types, contributed, rfl⟩ := built.exists_left member
        exact TypeExpr.wellMade_sortedUnion (each_of_forall₂ contributed fun _ _ => parts.wellMade _ _)

/-- The union of the types of some elements is a well-made element if it is on several lines. -/
theorem ArrayUnion.BuildsShapes.wellMade (parts : typed.WellMade graph) {shapes : TypeExpr}
    (built : BuildsShapes settings typed opened depth elements shapes)
    (severalLines : ∀ members depth multiline, shapes = .union members depth multiline → multiline = true) :
    shapes.WellMade true := by
  cases built with
  | one elementTypes agree again => exact (parts.wellMade _ _ again).element
  | @several _ types elementTypes differ =>
      have isMultiline := severalLines _ _ _ rfl
      refine ⟨?_, TypeExpr.membersWellMade_iff.mpr ?_⟩
      · rw [if_pos isMultiline]
        exact ⟨rfl, List.any_eq_true.mp isMultiline⟩
      · intro member isMember
        have isType := (TypeExpr.represents_distinctByText settings types).mem_of_mem member isMember
        obtain ⟨element, -, assigned⟩ := elementTypes.exists_left isType
        exact parts.wellMade _ _ assigned

theorem ArrayUnion.Builds.wellMade (parts : typed.WellMade graph) (nonempty : elements ≠ [])
    {kind : ArrayKind} {type : TypeExpr} (classified : ArrayKind.ofElements graph opened elements = kind)
    (built : Builds graph settings typed opened depth elements kind type) : type.WellMade false := by
  cases built with
  | arrays merging elementTypes =>
      exact TypeExpr.wellMade_arrayOfArrays (each_of_forall₂ elementTypes fun _ _ => parts.wellMade _ _)
  | arrayShapes uniting built spansLines =>
      exact built.wellMade parts (built.multiline_of_spansLines parts.single spansLines)
  | flatArrayShapes uniting built oneLine =>
      apply TypeExpr.wellMade_arrayOfArrays
      intro variant isVariant
      obtain ⟨element, -, variantDepth, -, assigned⟩ := built.exists_element parts.single variant isVariant
      exact parts.wellMade _ _ assigned
  | objects merging built => exact (built.wellMade parts).element
  | objectShapes uniting built =>
      have fresh := ArrayKind.fresh_of_ofElements classified
      apply built.wellMade parts
      apply built.multiline_of_objects parts.single nonempty
      intro element member elementDepth type assigned
      exact parts.object (fresh element member).1 (fresh element member).2 assigned
  | @mixed types elementTypes =>
      have union : (TypeExpr.unionOf (TypeExpr.distinctByText settings types)).WellMade false :=
        TypeExpr.wellMade_unionOf_distinctByText
          (each_of_forall₂ elementTypes fun _ _ => parts.wellMade _ _)
      exact union.element

/-- A step makes well-made types of well-made types. -/
theorem Inference.Builds.wellMade (parts : typed.WellMade graph) {call : Call} {type : TypeExpr}
    (built : Builds graph settings typed call type) : type.WellMade false := by
  cases built with
  | leaf merging opened depth leaf => exact leaf.wellMade_type
  | missing | circular | emptyArray => exact trivial
  | @object opened depth address node entries properties isNode fresh isObject listing built =>
      split
      · exact trivial
      · refine ⟨?_, TypeExpr.propertiesWellMade_iff.mpr ?_⟩
        · have sameKeys : properties.map (·.key) = entries.map (·.1) := by
            apply keys_of_forall₂ Prod.fst built
            rintro entry property ⟨types, -, rfl⟩
            rfl
          rw [sameKeys]
          exact (Graph.grouped_of_entriesOfNode listing).nodup
        · intro property member
          obtain ⟨entry, -, types, partTypes, rfl⟩ := built.exists_left member
          exact TypeExpr.wellMade_unionOf_distinctByText
            (each_of_forall₂ partTypes fun _ _ => parts.wellMade _ _)
  | mergedObject isNode fresh isObject built => exact built.wellMade parts
  | array isNode fresh isArray listing nonempty built => exact built.wellMade parts nonempty rfl
  | mergedArray isNode fresh isMerged built => exact (built.wellMade parts).element

end Step

namespace Graph

end Graph

end SampleTypes
