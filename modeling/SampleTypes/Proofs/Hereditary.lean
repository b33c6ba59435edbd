import SampleTypes.Proofs.InferredTypes

/-!
# Hereditary properties of inferred types

A property that goes over from the parts of a type to the type and back holds of every inferred type, if it
holds of the types that a step makes without parts.  It may ask something of the depths of what is laid out on
several lines, as long as greater depths meet it too, and it may rely on the members of a union having
different texts.
-/

namespace SampleTypes

/-- A property of types that only depends on parts and on depths.  The members of a union are told apart by their
texts. -/
structure TypeExpr.Inherited (settings : Settings) (allowed : Int → Prop) (good : TypeExpr → Prop) : Prop where
  deeper {depth : Int} (isAllowed : allowed depth) : allowed (depth + 1)
  emptyObject : good .emptyObject
  array_iff {element : TypeExpr} : good (.array element) ↔ good element
  object {properties : List (Property TypeExpr)} {depth : Int} (isAllowed : allowed depth)
    (values : ∀ property ∈ properties, good property.value) : good (.object properties depth)
  union {members : List TypeExpr} {depth : Int} {multiline : Bool}
    (isAllowed : multiline = true → allowed depth) (each : ∀ member ∈ members, good member)
    (differ : members.Pairwise fun earlier later => earlier.render settings ≠ later.render settings) :
    good (.union members depth multiline)
  members {members : List TypeExpr} {depth : Int} {multiline : Bool}
    (whole : good (.union members depth multiline)) : ∀ member ∈ members, good member

/-- A property of types that only depends on parts and on depths, and that the types without parts have. -/
structure TypeExpr.Hereditary (settings : Settings) (allowed : Int → Prop) (good : TypeExpr → Prop) : Prop
    extends Inherited settings allowed good where
  leaf (leaf : Leaf) : good leaf.type
  unknown : good .unknown
  circular : good .circular

namespace TypeExpr.Inherited

variable {allowed : Int → Prop} {good : TypeExpr → Prop} {settings : Settings} {types : List TypeExpr}

theorem unionOf (inherited : Inherited settings allowed good) (each : ∀ type ∈ types, good type)
    (differ : types.Pairwise fun earlier later => earlier.render settings ≠ later.render settings) :
    good (unionOf types) := by
  rcases unionOf_cases types 0 false with ⟨member, rfl, same⟩ | ⟨-, same⟩
  · rw [same]
    exact each member List.mem_cons_self
  · rw [same]
    exact inherited.union (fun impossible => absurd impossible Bool.false_ne_true) each differ

theorem sortedUnion (inherited : Inherited settings allowed good) (each : ∀ type ∈ types, good type) :
    good (sortedUnion settings types) := by
  rw [sortedUnion_eq]
  apply inherited.unionOf
  · intro type member
    exact each type ((represents_sortedByText settings types).mem_of_mem type member)
  · exact (pairwise_sortedByText settings types).imp fun less => ne_of_lt less

theorem distinctByText (each : ∀ type ∈ types, good type) :
    ∀ type ∈ distinctByText settings types, good type :=
  fun type member => each type ((represents_distinctByText settings types).mem_of_mem type member)

theorem unionOf_distinctByText (inherited : Inherited settings allowed good)
    (each : ∀ type ∈ types, good type) :
    good (TypeExpr.unionOf (TypeExpr.distinctByText settings types)) :=
  inherited.unionOf (distinctByText each) (pairwise_distinctByText settings types)

theorem unwrapArray (inherited : Inherited settings allowed good) {type : TypeExpr} (goodType : good type) :
    ∀ part ∈ type.unwrapArray, good part := by
  unfold TypeExpr.unwrapArray
  split
  · exact inherited.members (inherited.array_iff.mp goodType)
  · intro part member
    rw [List.mem_singleton.mp member]
    exact inherited.array_iff.mp goodType
  · intro part member
    rw [List.mem_singleton.mp member]
    exact goodType

theorem arrayOfArrays (inherited : Inherited settings allowed good) (each : ∀ type ∈ types, good type) :
    good (ArrayUnion.arrayOfArrays settings types) := by
  rw [ArrayUnion.arrayOfArrays, inherited.array_iff, inherited.array_iff]
  apply inherited.sortedUnion
  intro part member
  obtain ⟨type, typeMember, partMember⟩ := List.mem_flatMap.mp member
  exact inherited.unwrapArray (each type typeMember) part partMember

theorem variants (inherited : Inherited settings allowed good) {type : TypeExpr} (goodType : good type) :
    ∀ part ∈ ArrayUnion.variants type, good part := by
  unfold ArrayUnion.variants
  split
  · exact inherited.members goodType
  · intro part member
    rw [List.mem_singleton.mp member]
    exact goodType

end TypeExpr.Inherited

section Closed

variable {allowed : Int → Prop} {good : TypeExpr → Prop} {graph : Graph} {settings : Settings}
  {typed : Assignment} {opened : List Address} {depth : Int}

theorem Merge.Builds.hereditary (hereditary : TypeExpr.Hereditary settings allowed good)
    (each : ∀ call type, typed call type → allowed call.depth → good type) (isAllowed : allowed depth)
    {objects : List Value} (nonempty : objects ≠ []) {type : TypeExpr}
    (built : Merge.Builds graph settings typed opened depth objects type) : good type := by
  cases built with
  | nothing => exact absurd rfl nonempty
  | noKeys => exact hereditary.emptyObject
  | properties _ describing someKeys built =>
      apply hereditary.object isAllowed
      intro property member
      obtain ⟨key, -, types, contributed, rfl⟩ := built.exists_left member
      apply hereditary.sortedUnion
      exact each_of_forall₂ contributed fun _ _ typedCall =>
        each _ _ typedCall (hereditary.deeper isAllowed)

theorem ArrayUnion.BuildsShapes.hereditary (hereditary : TypeExpr.Hereditary settings allowed good)
    (each : ∀ call type, typed call type → allowed call.depth → good type) (isAllowed : allowed depth)
    {elements : List Value} {type : TypeExpr}
    (built : ArrayUnion.BuildsShapes settings typed opened depth elements type) : good type := by
  cases built with
  | one elementTypes agree again => exact each _ _ again isAllowed
  | several elementTypes differ =>
      apply hereditary.union (fun _ => isAllowed)
      · apply TypeExpr.Inherited.distinctByText
        exact each_of_forall₂ elementTypes fun _ _ typedCall =>
          each _ _ typedCall (hereditary.deeper isAllowed)
      · exact TypeExpr.pairwise_distinctByText _ _

theorem ArrayUnion.Builds.hereditary (hereditary : TypeExpr.Hereditary settings allowed good)
    (each : ∀ call type, typed call type → allowed call.depth → good type) (isAllowed : allowed depth)
    {elements : List Value} (nonempty : elements ≠ []) {kind : ArrayKind} {type : TypeExpr}
    (built : ArrayUnion.Builds graph settings typed opened depth elements kind type) : good type := by
  have deeper := hereditary.deeper isAllowed
  cases built with
  | arrays merging elementTypes =>
      apply hereditary.arrayOfArrays
      exact each_of_forall₂ elementTypes fun _ _ typedCall => each _ _ typedCall deeper
  | arrayShapes uniting built spansLines =>
      exact hereditary.array_iff.mpr (built.hereditary hereditary each isAllowed)
  | flatArrayShapes uniting built oneLine =>
      exact hereditary.arrayOfArrays (hereditary.variants (built.hereditary hereditary each isAllowed))
  | objects merging built =>
      exact hereditary.array_iff.mpr (built.hereditary hereditary each isAllowed nonempty)
  | objectShapes uniting built =>
      exact hereditary.array_iff.mpr (built.hereditary hereditary each isAllowed)
  | mixed elementTypes =>
      rw [hereditary.array_iff]
      apply hereditary.unionOf_distinctByText
      exact each_of_forall₂ elementTypes fun _ _ typedCall => each _ _ typedCall deeper

/-- A step keeps a hereditary property. -/
theorem Inference.Builds.hereditary (hereditary : TypeExpr.Hereditary settings allowed good)
    (each : ∀ call type, typed call type → allowed call.depth → good type) {call : Call}
    (isAllowed : allowed call.depth) {type : TypeExpr}
    (built : Inference.Builds graph settings typed call type) : good type := by
  cases built with
  | leaf merging opened depth leaf => exact hereditary.leaf leaf
  | missing isMissing => exact hereditary.unknown
  | circular isNode isOpen => exact hereditary.circular
  | object isNode fresh isObject listing built =>
      split
      · exact hereditary.emptyObject
      · apply hereditary.object isAllowed
        intro property member
        obtain ⟨entry, -, types, partTypes, rfl⟩ := built.exists_left member
        apply hereditary.unionOf_distinctByText
        exact each_of_forall₂ partTypes fun _ _ typedCall =>
          each _ _ typedCall (hereditary.deeper isAllowed)
  | mergedObject isNode fresh isObject built =>
      exact built.hereditary hereditary each isAllowed (List.cons_ne_nil _ _)
  | emptyArray isNode fresh isArray listing => exact hereditary.array_iff.mpr hereditary.unknown
  | array isNode fresh isArray listing nonempty built =>
      exact built.hereditary hereditary each isAllowed nonempty
  | mergedArray isNode fresh isMerged built =>
      obtain ⟨-, someMembers, -⟩ := fresh_of_isMergedArray isNode isMerged
      exact hereditary.array_iff.mpr (built.hereditary hereditary each isAllowed someMembers)

end Closed

/-- Every inferred type has every hereditary property that its depth allows. -/
theorem Inference.hereditary_of_answer {settings : Settings} {allowed : Int → Prop} {good : TypeExpr → Prop}
    (hereditary : TypeExpr.Hereditary settings allowed good) {graph : Graph} {budget : Nat} {call : Call}
    {type : TypeExpr} (answer : (typer graph settings budget).Answers call type)
    (isAllowed : allowed call.depth) : good type :=
  answer_induction (fun call type => allowed call.depth → good type)
    (fun _ _ _ built isAllowed => built.hereditary hereditary (fun _ _ part => part.2) isAllowed)
    budget answer isAllowed

end SampleTypes
