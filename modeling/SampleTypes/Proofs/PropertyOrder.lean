import SampleTypes.Proofs.FacetedWorlds
import SampleTypes.Proofs.WellMade

/-!
# The order of properties

An object by itself keeps its keys in the order in which it has them.  Merging puts them in order, and the members of
unions under them too.  Where objects are merged nothing in an array takes the other way: an object is merged even if
it is the only one, however deep it lies among arrays and other objects, unless it passes for an array as well.
-/

namespace SampleTypes

namespace TypeExpr

/-- Merged properties: the keys are in ascending order, and so are the texts of the members of a union under a key. -/
structure InOrder (settings : Settings) (properties : List (Property TypeExpr)) : Prop where
  keys : (properties.map (·.key)).Pairwise (· < ·)
  members {property : Property TypeExpr} (member : property ∈ properties) {members : List TypeExpr} {depth : Int}
    {multiline : Bool} (isUnion : property.value = .union members depth multiline) :
    (members.map (·.render settings)).Pairwise (· < ·)

/-- Whether every object in a type has its properties in order. -/
def Ordered (settings : Settings) (type : TypeExpr) : Prop :=
  ∀ properties depth, Occurs (.object properties depth) type → InOrder settings properties

/-- Whether every object below an array in a type has its properties in order. -/
def OrderedInArrays (settings : Settings) (type : TypeExpr) : Prop :=
  ∀ element, Occurs (.array element) type → element.Ordered settings

section Occurs

variable {part : TypeExpr} {settings : Settings} {types : List TypeExpr}

theorem exists_member_of_occurs_unionOf {members : List TypeExpr} {depth : Int} {multiline : Bool}
    (noUnion : part.isUnion = false) (occurs : Occurs part (unionOf members depth multiline)) :
    ∃ member ∈ members, Occurs part member := by
  rcases unionOf_cases members depth multiline with ⟨member, rfl, same⟩ | ⟨-, same⟩
  · rw [same] at occurs
    exact ⟨member, List.mem_cons_self, occurs⟩
  · rw [same] at occurs
    cases occurs with
    | here => cases noUnion
    | member isMember below => exact ⟨_, isMember, below⟩

/-- What occurs in a union of variants of some types, and is no union itself, occurs in one of the types. -/
theorem Represents.exists_type_of_occurs {variants : List TypeExpr} (represents : Represents settings variants types)
    (noUnion : part.isUnion = false) (occurs : Occurs part (unionOf variants)) :
    ∃ type ∈ types, Occurs part type := by
  obtain ⟨variant, member, below⟩ := exists_member_of_occurs_unionOf noUnion occurs
  exact ⟨variant, represents.mem_of_mem variant member, below⟩

theorem occurs_of_mem_unwrapArray {type : TypeExpr} (member : part ∈ type.unwrapArray) : Occurs part type := by
  unfold unwrapArray at member
  split at member
  · exact .element (.member member .here)
  · rw [List.mem_singleton.mp member]
    exact .element .here
  · rw [List.mem_singleton.mp member]
    exact .here

end Occurs

section Ordered

variable {settings : Settings} {types : List TypeExpr} {type : TypeExpr}

theorem Ordered.of_occurs {part : TypeExpr} (ordered : type.Ordered settings) (occurs : Occurs part type) :
    part.Ordered settings :=
  fun properties depth below => ordered properties depth (below.trans occurs)

theorem Ordered.inArrays (ordered : type.Ordered settings) : type.OrderedInArrays settings :=
  fun _ occurs => (ordered.of_occurs occurs).of_occurs (.element .here)

theorem Ordered.array {element : TypeExpr} (ordered : element.Ordered settings) :
    (array element).Ordered settings := by
  intro properties depth occurs
  cases occurs with
  | element below => exact ordered properties depth below

theorem ordered_unknown : unknown.Ordered settings := by
  intro properties depth occurs
  cases occurs

theorem ordered_circular : circular.Ordered settings := by
  intro properties depth occurs
  cases occurs

theorem ordered_anyObject : anyObject.Ordered settings := by
  intro properties depth occurs
  cases occurs with
  | value below => cases below

theorem ordered_emptyObject : emptyObject.Ordered settings := by
  intro properties depth occurs
  cases occurs with
  | value below => cases below

theorem ordered_object {properties : List (Property TypeExpr)} (inOrder : InOrder settings properties)
    (values : ∀ property ∈ properties, property.value.Ordered settings) (depth : Int) :
    (object properties depth).Ordered settings := by
  intro others otherDepth occurs
  cases occurs with
  | here => exact inOrder
  | property member below => exact values _ member others otherDepth below

theorem ordered_unionOf_distinctByText (each : ∀ type ∈ types, type.Ordered settings) :
    (unionOf (distinctByText settings types)).Ordered settings := by
  intro properties depth occurs
  obtain ⟨type, member, below⟩ := (represents_distinctByText settings types).exists_type_of_occurs rfl occurs
  exact each type member properties depth below

theorem ordered_sortedUnion (each : ∀ type ∈ types, type.Ordered settings) :
    (sortedUnion settings types).Ordered settings := by
  intro properties depth occurs
  obtain ⟨type, member, below⟩ := (represents_sortedByText settings types).exists_type_of_occurs rfl occurs
  exact each type member properties depth below

theorem ordered_arrayOfArrays (each : ∀ type ∈ types, type.Ordered settings) :
    (ArrayUnion.arrayOfArrays settings types).Ordered settings := by
  have unwrapped : ∀ part ∈ types.flatMap unwrapArray, part.Ordered settings := by
    intro part member
    obtain ⟨type, typeMember, isPart⟩ := List.mem_flatMap.mp member
    exact (each type typeMember).of_occurs (occurs_of_mem_unwrapArray isPart)
  exact (ordered_sortedUnion unwrapped).array.array

/-- A sorted union of single types has its members in order, if it is a union at all. -/
theorem pairwise_members_of_sortedUnion (single : ∀ type ∈ types, type.Single) {members : List TypeExpr} {depth : Int}
    {multiline : Bool} (isUnion : sortedUnion settings types = .union members depth multiline) :
    (members.map (·.render settings)).Pairwise (· < ·) := by
  have sameMembers : sortedByText settings types = members := by
    rw [← variants_sortedUnion single, isUnion]
    rfl
  rw [← sameMembers, List.pairwise_map]
  exact pairwise_sortedByText settings types

/-- Properties by themselves are in no order, but the arrays in them may be. -/
theorem orderedInArrays_object {properties : List (Property TypeExpr)}
    (values : ∀ property ∈ properties, property.value.OrderedInArrays settings) (depth : Int) :
    (object properties depth).OrderedInArrays settings := by
  intro element occurs
  cases occurs with
  | property member below => exact values _ member element below

theorem orderedInArrays_unionOf_distinctByText (each : ∀ type ∈ types, type.OrderedInArrays settings) :
    (unionOf (distinctByText settings types)).OrderedInArrays settings := by
  intro element occurs
  obtain ⟨type, member, below⟩ := (represents_distinctByText settings types).exists_type_of_occurs rfl occurs
  exact each type member element below

end Ordered

end TypeExpr

theorem Leaf.ordered_type (settings : Settings) (leaf : Leaf) : leaf.type.Ordered settings := by
  intro properties depth occurs
  cases leaf with
  | integer value kind =>
      rw [Leaf.type] at occurs
      cases occurs
  | _ => cases occurs

/-- An assignment of types that are ordered in arrays, and everywhere if an object is merged or there is none. -/
structure Assignment.Ordered (graph : Graph) (settings : Settings) (typed : Assignment) : Prop where
  single : ∀ call type, typed call type → type.Single
  inArrays : ∀ call type, typed call type → type.OrderedInArrays settings
  ordered {call : Call} {type : TypeExpr} (assigned : typed call type)
    (merged : call.merging = true ∨ graph.isObject call.value = false) : type.Ordered settings

section Step

variable {graph : Graph} {settings : Settings} {typed : Assignment} {opened : List Address} {depth : Int}
  (parts : typed.Ordered graph settings)
include parts

theorem Merge.Builds.ordered {objects : List Value} {type : TypeExpr}
    (built : Merge.Builds graph settings typed opened depth objects type) : type.Ordered settings := by
  cases built with
  | nothing => exact TypeExpr.ordered_anyObject
  | noKeys => exact TypeExpr.ordered_emptyObject
  | @properties _ described properties nonempty describing someKeys built =>
      refine TypeExpr.ordered_object ⟨?_, ?_⟩ ?_ depth
      · rw [keys_of_built built]
        exact TextIndex.pairwise_texts _
      · intro property member members unionDepth multiline isUnion
        obtain ⟨key, -, types, contributed, rfl⟩ := built.exists_left member
        exact TypeExpr.pairwise_members_of_sortedUnion
          (each_of_forall₂ contributed fun _ _ => parts.single _ _) isUnion
      · intro property member
        obtain ⟨key, -, types, contributed, rfl⟩ := built.exists_left member
        exact TypeExpr.ordered_sortedUnion
          (each_of_forall₂ contributed fun _ _ assigned => parts.ordered assigned (.inl rfl))

/-- Where objects are merged, an array has nothing but ordered objects in it. -/
theorem ArrayUnion.Builds.ordered (merging : settings.mode = .merge) {elements : List Value} {kind : ArrayKind}
    {type : TypeExpr} (isKind : ArrayKind.ofElements graph opened elements = kind)
    (built : ArrayUnion.Builds graph settings typed opened depth elements kind type) : type.Ordered settings := by
  cases built with
  | @arrays types _ elementTypes =>
      apply TypeExpr.ordered_arrayOfArrays
      intro type member
      obtain ⟨element, elementMember, assigned⟩ := elementTypes.exists_left member
      have isArray := ArrayKind.ofElements_eq_arrays_iff.mp isKind element elementMember
      exact parts.ordered assigned (.inr (Graph.not_isObject_of_isArray isArray))
  | arrayShapes uniting | flatArrayShapes uniting | objectShapes uniting => cases merging.symm.trans uniting
  | objects _ built => exact (built.ordered parts).array
  | mixed elementTypes =>
      apply TypeExpr.Ordered.array
      apply TypeExpr.ordered_unionOf_distinctByText
      refine each_of_forall₂ elementTypes fun element type assigned => parts.ordered assigned ?_
      cases isObject : graph.isObject element with
      | true => exact .inl (by simp [merging])
      | false => exact .inr rfl

/-- A step orders the objects in arrays, and an object that is merged, if that has been done for the values inside. -/
theorem Inference.Builds.ordered (merging : settings.mode = .merge) {call : Call} {type : TypeExpr}
    (built : Inference.Builds graph settings typed call type) :
    type.OrderedInArrays settings ∧
      (call.merging = true ∨ graph.isObject call.value = false → type.Ordered settings) := by
  have everywhere (ordered : type.Ordered settings) : type.OrderedInArrays settings ∧
      (call.merging = true ∨ graph.isObject call.value = false → type.Ordered settings) :=
    ⟨ordered.inArrays, fun _ => ordered⟩
  cases built with
  | leaf _ opened depth leaf => exact everywhere (leaf.ordered_type settings)
  | missing => exact everywhere TypeExpr.ordered_unknown
  | circular => exact everywhere TypeExpr.ordered_circular
  | @object opened depth address node entries properties isNode fresh isObject listing built =>
      constructor
      · split
        · exact TypeExpr.ordered_emptyObject.inArrays
        · apply TypeExpr.orderedInArrays_object
          intro property member
          obtain ⟨entry, -, types, partTypes, rfl⟩ := built.exists_left member
          exact TypeExpr.orderedInArrays_unionOf_distinctByText
            (each_of_forall₂ partTypes fun _ _ => parts.inArrays _ _)
      · rintro (isMerged | noObject)
        · cases isMerged
        · simp [Graph.isObject, Graph.nodeOf?, isNode, isObject] at noObject
  | mergedObject isNode fresh isObject built => exact everywhere (built.ordered parts)
  | emptyArray => exact everywhere TypeExpr.ordered_unknown.array
  | array isNode fresh isArray listing nonempty built => exact everywhere (built.ordered parts merging rfl)
  | mergedArray isNode fresh isMerged built => exact everywhere (built.ordered parts).array

end Step

theorem Inference.ordered_of_answer {graph : Graph} {settings : Settings} (merging : settings.mode = .merge)
    {budget : Nat} {call : Call} {type : TypeExpr} (answer : (typer graph settings budget).Answers call type) :
    type.OrderedInArrays settings := by
  refine (answer_induction (fun call type => type.OrderedInArrays settings ∧
    (call.merging = true ∨ graph.isObject call.value = false → type.Ordered settings)) ?_ budget answer).1
  intro budget call type built
  refine built.ordered ?_ merging
  exact {
    single := fun _ _ part => single_of_answer part.1
    inArrays := fun _ _ part => part.2.1
    ordered := fun part => part.2.2 }

namespace Graph

/-- Where objects are merged, a value has a type, unless the contents of a container inside it cannot be listed, and
every object that lies below an array in the type, however deep, has its keys in ascending order, and where the value
of a key has a union type, the texts of its members are in ascending order. -/
theorem infer_sorted_in_arrays (graph : Graph) {settings : Settings} (merging : settings.mode = .merge) (value : Value)
    (depth : Int) :
    (∃ type, graph.infer settings value depth = .ok type ∧
        ∀ element properties objectDepth, TypeExpr.Occurs (.array element) type →
          TypeExpr.Occurs (.object properties objectDepth) element →
            (properties.map (·.key)).Pairwise (· < ·) ∧
              ∀ property ∈ properties, ∀ members unionDepth multiline,
                property.value = .union members unionDepth multiline →
                  (members.map (·.render settings)).Pairwise (· < ·)) ∨
      ∃ fault, graph.infer settings value depth = .error fault ∧ graph.FailsBelow value fault := by
  rcases infer_cases graph settings value depth with ⟨type, inferred⟩ | failed
  · have ordered := Inference.ordered_of_answer merging (answers_of_infer inferred)
    refine .inl ⟨type, inferred, ?_⟩
    intro element properties objectDepth inType inElement
    have inOrder := ordered element inType properties objectDepth inElement
    exact ⟨inOrder.keys, fun property member members unionDepth multiline => inOrder.members member⟩
  · exact .inr failed

end Graph

namespace FacetedGraph

/-- Where objects are merged, a value without facets inside arrays has a type, unless the contents of a container that
shows inside it cannot be listed, and every object that lies below an array in the type, however deep, has its keys in
ascending order, and where the value of a key has a union type, the texts of its members are in ascending order. -/
theorem infer_ordered_in_arrays (graph : FacetedGraph) {settings : Settings} (merging : settings.mode = .merge)
    (value : Value) (depth : Int) (bare : graph.BareInArrays value) :
    (∃ type, graph.infer settings value depth = .ok type ∧
        ∀ element properties objectDepth, TypeExpr.Occurs (.array element) type →
          TypeExpr.Occurs (.object properties objectDepth) element →
            (properties.map (·.key)).Pairwise (· < ·) ∧
              ∀ property ∈ properties, ∀ members unionDepth multiline,
                property.value = .union members unionDepth multiline →
                  (members.map (·.render settings)).Pairwise (· < ·)) ∨
      ∃ fault, graph.infer settings value depth = .error fault ∧
        graph.shown.FailsBelow (graph.front value) fault := by
  rw [infer_shown settings depth bare]
  exact graph.shown.infer_sorted_in_arrays merging (graph.front value) depth

/-- The merged properties of the objects in the list of the showcase. -/
def showcaseRow : List (Property TypeExpr) :=
  [⟨"card", .union [.primitive "number", .primitive "string"] 0 false, false⟩, ⟨"suit", .primitive "null", true⟩]

/-- The properties of the showcase, in the order in which it has them. -/
def showcaseProperties : List (Property TypeExpr) :=
  [⟨"pair", .primitive "symbol", false⟩, ⟨"deck", .object [⟨"number", .primitive "number", false⟩] 1, false⟩,
    ⟨"rows", .array (.object showcaseRow 1), false⟩]

/-- Below the list the keys are in order, though the object around it has its keys in another one. -/
theorem infer_ordered_in_arrays_showcase :
    ({} : Settings).mode = .merge ∧ showcase.BareInArrays (.container 0) ∧
      showcase.infer {} (.container 0) = .ok (.object showcaseProperties 0) ∧
      ¬(showcaseProperties.map (·.key)).Pairwise (· < ·) ∧ (showcaseRow.map (·.key)).Pairwise (· < ·) ∧
      (["number", "string"] : List String).Pairwise (· < ·) := by
  have merging : ({} : Settings).mode = .merge := rfl
  have inferred : showcase.infer {} (.container 0) = .ok (.object showcaseProperties 0) := by rfl
  refine ⟨merging, bareInArrays_showcase _, inferred, by decide, ?_⟩
  obtain ⟨type, sameInferred, ordered⟩ | ⟨fault, failed, -⟩ :=
    infer_ordered_in_arrays showcase merging (.container 0) 0 (bareInArrays_showcase _)
  · cases inferred.symm.trans sameInferred
    have isProperty : ⟨"rows", .array (.object showcaseRow 1), false⟩ ∈ showcaseProperties := by
      simp [showcaseProperties]
    have inShowcase : TypeExpr.Occurs (.array (.object showcaseRow 1)) (.object showcaseProperties 0) :=
      .property isProperty .here
    obtain ⟨rowKeys, rowUnions⟩ := ordered _ showcaseRow 1 inShowcase .here
    exact ⟨rowKeys, rowUnions _ List.mem_cons_self _ _ _ rfl⟩
  · cases inferred.symm.trans failed

/-- Below the list of a record with the elements of an array, the keys of the record are as it has them. -/
theorem infer_unordered_in_arrays_misfits :
    ∃ element properties, misfits.infer {} (.container 0) = .ok (.array element) ∧
      TypeExpr.Occurs (.object properties 1) element ∧ ¬(properties.map (·.key)).Pairwise (· < ·) := by
  have inferred : misfits.infer {} (.container 0) =
      .ok (.array (.array (.object [⟨"rows", .array (.primitive "number"), false⟩, ⟨"number", .primitive "number", false⟩]
        1))) := by rfl
  exact ⟨_, _, inferred, .element .here, by decide⟩

end FacetedGraph

end SampleTypes
