import SampleTypes.Proofs.FacetedFailure
import SampleTypes.Proofs.Hereditary

/-!
# Laws of the types of values with facets

A law says what the type of a value is to be like, and may refer to the containers that are open around the value.  If
it goes over from what a container holds to the container, and from the parts of a type to the type, every inferred type
keeps it, whatever facets the containers have.
-/

namespace SampleTypes

/-- What the types of values are to be like in some open containers. -/
abbrev TypeLaw := List Address → Value → TypeExpr → Prop

/-- A law that goes over from parts to wholes, and that the types without parts keep. -/
structure FacetedGraph.Keeps (graph : FacetedGraph) (settings : Settings) (allowed : Int → Prop) (law : TypeLaw) :
    Prop where
  inherited (opened : List Address) (value : Value) : TypeExpr.Inherited settings allowed (law opened value)
  leaf {opened : List Address} {value : Value} (leaf : Leaf) : law opened value leaf.type
  unknown {opened : List Address} {value : Value} : law opened value .unknown
  anyObject {opened : List Address} {value : Value} : law opened value .anyObject
  circular {opened : List Address} {value : Value} (isOpen : value.isOpen opened = true) : law opened value .circular
  held {opened : List Address} {address : Address} {part : Value} {type : TypeExpr}
    (holds : graph.Holds (.container address) part) (kept : law (address :: opened) part type) :
    law opened (.container address) type

/-- A typer the answers of which keep a law at the depths that are allowed. -/
structure MergingTyper.Obeys (graph : FacetedGraph) (typer : MergingTyper) (allowed : Int → Prop) (law : TypeLaw) :
    Prop where
  infer {opened : List Address} {depth : Int} {value : Value} {type : TypeExpr} (isAllowed : allowed depth)
    (typed : typer.infer opened depth value = .ok type) : law opened value type
  contribute {opened : List Address} {depth : Int} {value : Value} {type : TypeExpr} (isAllowed : allowed depth)
    (typed : typer.contribute opened depth value = .ok type) : law opened value type
  merge {opened : List Address} {depth : Int} {value : Value} {type : TypeExpr} (isAllowed : allowed depth)
    (isObject : graph.isObject value = true) (typed : typer.merge opened depth value = .ok type) :
    law opened value type

namespace FacetedGraph

section Steps

variable {graph : FacetedGraph} {settings : Settings} {typer : MergingTyper} {allowed : Int → Prop} {law : TypeLaw}
  {good : TypeExpr → Prop} {opened : List Address} {depth : Int} {type : TypeExpr}
  (keeps : graph.Keeps settings allowed law) (obeys : typer.Obeys graph allowed law)
  (inherited : TypeExpr.Inherited settings allowed good) (isAllowed : allowed depth)
include keeps obeys inherited isAllowed

theorem good_of_shapes {objects : List Value} (areObjects : ∀ object ∈ objects, graph.isObject object = true)
    (anyObject : good .anyObject) (each : ∀ object ∈ objects, ∀ type, law opened object type → good type)
    (typed : graph.shapes settings typer opened depth objects = .ok type) : good type := by
  unfold shapes at typed
  split at typed
  · cases typed
    exact anyObject
  · obtain ⟨described, describing, rest⟩ := Outcome.bind_eq_ok_iff.mp typed
    dsimp only at rest
    split at rest
    · cases rest
      exact inherited.emptyObject
    · obtain ⟨properties, built, equal⟩ := Outcome.bind_eq_ok_iff.mp rest
      cases equal
      apply inherited.object isAllowed
      intro property member
      obtain ⟨key, -, propertyBuilt⟩ := (Outcome.mapM_eq_ok_iff.mp built).exists_left member
      obtain ⟨types, contributed, equal⟩ := Outcome.bind_eq_ok_iff.mp propertyBuilt
      cases equal
      apply inherited.sortedUnion
      intro type typeMember
      obtain ⟨⟨object, part⟩, isContributor, answer⟩ := (Merge.contributions_eq_ok contributed).exists_left typeMember
      obtain ⟨description, isDescribed, rfl, partMember⟩ := Merge.mem_contributors_iff.mp isContributor
      obtain ⟨object, objectMember, describes⟩ := (Outcome.mapM_eq_ok_iff.mp describing).exists_left isDescribed
      obtain ⟨entries, listing, equal⟩ := Outcome.bind_eq_ok_iff.mp describes
      cases equal
      obtain ⟨address, node, rfl, isNode, -⟩ := Graph.isObject_eq_true_iff.mp (areObjects object objectMember)
      rw [entries_container isNode] at listing
      have held := mem_held_of_entries listing (Merge.filed_of_mem_valuesUnder partMember)
      apply each _ objectMember
      exact keeps.held ⟨address, node, rfl, .inl isNode, held⟩ (obeys.contribute (inherited.deeper isAllowed) answer)

omit keeps in
theorem good_of_distinctShapes {elements : List Value}
    (each : ∀ element ∈ elements, ∀ type, law opened element type → good type)
    (typed : ArrayUnion.distinctShapes settings typer.toTyper opened depth elements = .ok type) : good type := by
  obtain ⟨types, answers, rest⟩ := Outcome.bind_eq_ok_iff.mp typed
  split at rest
  · exact each _ List.mem_cons_self _ (obeys.infer isAllowed rest)
  · cases rest
    refine inherited.union (fun _ => isAllowed) ?_ (TypeExpr.pairwise_distinctByText settings types)
    apply TypeExpr.Inherited.distinctByText
    intro type member
    obtain ⟨element, elementMember, answer⟩ := (Outcome.mapM_eq_ok_iff.mp answers).exists_left member
    exact each element elementMember type (obeys.infer (inherited.deeper isAllowed) answer)

omit keeps in
theorem good_of_ofArrays {elements : List Value}
    (each : ∀ element ∈ elements, ∀ type, law opened element type → good type)
    (typed : ArrayUnion.ofArrays settings typer.toTyper opened depth elements = .ok type) : good type := by
  unfold ArrayUnion.ofArrays at typed
  split at typed
  · obtain ⟨shapes, built, rest⟩ := Outcome.bind_eq_ok_iff.mp typed
    have goodShapes := good_of_distinctShapes obeys inherited isAllowed each built
    split at rest
    · cases rest
      exact inherited.array_iff.mpr goodShapes
    · cases rest
      exact inherited.arrayOfArrays (inherited.variants goodShapes)
  · obtain ⟨types, answers, equal⟩ := Outcome.bind_eq_ok_iff.mp typed
    cases equal
    apply inherited.arrayOfArrays
    intro type member
    obtain ⟨element, elementMember, answer⟩ := (Outcome.mapM_eq_ok_iff.mp answers).exists_left member
    exact each element elementMember type (obeys.infer (inherited.deeper isAllowed) answer)

theorem good_of_ofKind {elements : List Value} (anyObject : good .anyObject)
    (each : ∀ element ∈ elements, ∀ type, law opened element type → good type)
    (typed : graph.ofKind settings typer opened depth (graph.kindOfElements opened elements) elements = .ok type) :
    good type := by
  cases isKind : graph.kindOfElements opened elements with
  | arrays =>
      simp only [isKind, ofKind] at typed
      exact good_of_ofArrays obeys inherited isAllowed each typed
  | objects =>
      have areObjects := objects_of_kindOfElements isKind
      simp only [isKind, ofKind] at typed
      split at typed
      · obtain ⟨shape, built, equal⟩ := Outcome.bind_eq_ok_iff.mp typed
        cases equal
        exact inherited.array_iff.mpr (good_of_shapes keeps obeys inherited isAllowed areObjects anyObject each built)
      · obtain ⟨shape, built, equal⟩ := Outcome.bind_eq_ok_iff.mp typed
        cases equal
        exact inherited.array_iff.mpr (good_of_distinctShapes obeys inherited isAllowed each built)
  | mixed =>
      simp only [isKind, ofKind] at typed
      obtain ⟨types, answers, equal⟩ := Outcome.bind_eq_ok_iff.mp typed
      cases equal
      apply inherited.array_iff.mpr
      apply inherited.unionOf_distinctByText
      intro type member
      obtain ⟨element, elementMember, answer⟩ := (Outcome.mapM_eq_ok_iff.mp answers).exists_left member
      apply each element elementMember
      split at answer
      · rename_i merged
        exact obeys.merge (inherited.deeper isAllowed) merged.2 answer
      · exact obeys.infer (inherited.deeper isAllowed) answer

omit inherited in
theorem law_of_object {address : Address} {node : Node} (isNode : graph.node? address = some node)
    (typed : graph.object settings typer (address :: opened) depth node = .ok type) :
    law opened (.container address) type := by
  have inherited := keeps.inherited opened (.container address)
  obtain ⟨entries, listing, rest⟩ := Outcome.bind_eq_ok_iff.mp typed
  obtain ⟨properties, built, equal⟩ := Outcome.bind_eq_ok_iff.mp rest
  cases equal
  split
  · exact inherited.emptyObject
  · apply inherited.object isAllowed
    intro property member
    obtain ⟨entry, entryMember, propertyBuilt⟩ := (Outcome.mapM_eq_ok_iff.mp built).exists_left member
    obtain ⟨types, answers, equal⟩ := Outcome.bind_eq_ok_iff.mp propertyBuilt
    cases equal
    apply inherited.unionOf_distinctByText
    intro type typeMember
    obtain ⟨part, partMember, answer⟩ := (Outcome.mapM_eq_ok_iff.mp answers).exists_left typeMember
    have held := mem_held_of_entries listing ⟨entry, entryMember, rfl, partMember⟩
    exact keeps.held ⟨address, node, rfl, .inl isNode, held⟩ (obeys.infer (inherited.deeper isAllowed) answer)

omit inherited in
theorem law_of_array {address : Address} {node : Node} (isNode : graph.node? address = some node)
    (isArray : node.isObject = false)
    (typed : graph.array settings typer (address :: opened) depth node = .ok type) :
    law opened (.container address) type := by
  have inherited := keeps.inherited opened (.container address)
  obtain ⟨elements, listing, rest⟩ := Outcome.bind_eq_ok_iff.mp typed
  split at rest
  · cases rest
    exact inherited.array_iff.mpr keeps.unknown
  · refine good_of_ofKind keeps obeys inherited isAllowed keeps.anyObject ?_ rest
    intro element member type kept
    have held : element ∈ node.held := by
      rw [Node.held_of_array isArray]
      exact (elements_perm_members listing).mem_iff.mp member
    exact keeps.held ⟨address, node, rfl, .inl isNode, held⟩ kept

omit inherited in
theorem law_of_value {value : Value} (typed : graph.value settings typer opened depth value = .ok type) :
    law opened value type := by
  cases value with
  | leaf leaf =>
      cases typed
      exact keeps.leaf leaf
  | container address =>
      cases guise : (graph.facets address).guise with
      | some leaf =>
          simp only [FacetedGraph.value, front, guise] at typed
          cases typed
          exact keeps.leaf leaf.val
      | none =>
          simp only [FacetedGraph.value, front, guise] at typed
          split at typed
          · cases typed
            exact keeps.unknown
          · rename_i node isNode
            split at typed
            · rename_i isOpen
              cases typed
              exact keeps.circular (List.contains_iff_mem.mpr isOpen)
            · split at typed
              · exact law_of_object keeps obeys isAllowed isNode typed
              · rename_i isArray
                exact law_of_array keeps obeys isAllowed isNode (Bool.eq_false_iff.mpr isArray) typed

omit inherited in
theorem law_of_mergedObject {value : Value} (isObject : graph.isObject value = true)
    (typed : graph.mergedObject settings typer opened depth value = .ok type) : law opened value type := by
  unfold mergedObject at typed
  split at typed
  · rename_i isOpen
    cases typed
    exact keeps.circular isOpen
  · exact good_of_shapes keeps obeys (keeps.inherited opened value) isAllowed (List.forall_mem_singleton.mpr isObject)
      keeps.anyObject (List.forall_mem_singleton.mpr fun _ => id) typed

omit inherited in
theorem law_of_contribution {value : Value}
    (typed : graph.contribution settings typer opened depth value = .ok type) : law opened value type := by
  cases value with
  | leaf leaf =>
      cases typed
      exact keeps.leaf leaf
  | container address =>
      have inherited := keeps.inherited opened (.container address)
      simp only [contribution] at typed
      split at typed
      · rename_i array isMerged
        obtain ⟨isArray, areObjects, -⟩ := of_mergedArray? isMerged
        obtain ⟨-, noObject⟩ := exists_node_of_arrayAt? isArray
        obtain ⟨shape, built, equal⟩ := Outcome.bind_eq_ok_iff.mp typed
        cases equal
        apply inherited.array_iff.mpr
        refine good_of_shapes keeps obeys inherited isAllowed areObjects keeps.anyObject ?_ built
        intro object member type kept
        have held : object ∈ array.held := by
          rw [Node.held_of_array noObject]
          exact member
        exact keeps.held ⟨address, array, rfl, .inr isArray, held⟩ kept
      · split at typed
        · rename_i isObject
          exact law_of_mergedObject keeps obeys isAllowed isObject typed
        · exact law_of_value keeps obeys isAllowed typed

end Steps

/-- What steps keep, the typers of every budget keep. -/
theorem obeys_typerWithin {graph : FacetedGraph} {settings : Settings} {allowed : Int → Prop} {law : TypeLaw}
    (keeps : graph.Keeps settings allowed law) (budget : Nat) :
    (graph.typerWithin settings budget).Obeys graph allowed law := by
  induction budget with
  | zero =>
      constructor
      · intro _ _ _ _ _ typed
        cases typed
      · intro _ _ _ _ _ typed
        cases typed
      · intro _ _ _ _ _ _ typed
        cases typed
  | succ budget induction =>
      constructor
      · intro opened depth value type isAllowed typed
        exact law_of_value keeps induction isAllowed typed
      · intro opened depth value type isAllowed typed
        exact law_of_contribution keeps induction isAllowed typed
      · intro opened depth value type isAllowed isObject typed
        exact law_of_mergedObject keeps induction isAllowed isObject typed

end FacetedGraph

end SampleTypes
