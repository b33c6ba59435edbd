import SampleTypes.Proofs.MergedShapes
import SampleTypes.Proofs.Widening

/-!
# Samples added to a merged shape

What becomes of a merged shape when more objects are merged into it.  Its keys stay, new keys are optional, no
optional key becomes a required one, and the type of a key only gains variants.  So the shape goes on holding
whatever it held, which is also true of a shape without any keys.
-/

namespace SampleTypes

namespace TypeExpr

/-- The properties of a shape and what they become when more objects are merged into it. -/
structure Grows (settings : Settings) (narrows wides : List (Property TypeExpr)) : Prop where
  kept : ∀ narrow ∈ narrows, ∃ wide ∈ wides, wide.key = narrow.key
  added : ∀ wide ∈ wides, wide.key ∉ narrows.map (·.key) → wide.optional = true
  optional : ∀ narrow ∈ narrows, ∀ wide ∈ wides, narrow.key = wide.key → narrow.optional = true →
    wide.optional = true
  variants : ∀ narrow ∈ narrows, ∀ wide ∈ wides, narrow.key = wide.key →
    ∀ variant ∈ ArrayUnion.variants narrow.value,
      ∃ other ∈ ArrayUnion.variants wide.value, other.render settings = variant.render settings

section Growth

variable {settings : Settings} {narrows wides : List (Property TypeExpr)} {depth wideDepth : Int}

theorem Regular.variants {type : TypeExpr} (regular : type.Regular) :
    ∀ variant ∈ ArrayUnion.variants type, variant.Regular := by
  intro variant member
  cases type with
  | union members depth multiline => exact (regularMembers_iff.mp regular.2 variant member).2
  | _ =>
      rw [List.mem_singleton.mp member]
      exact regular

/-- A type with the texts of all variants of another one holds what that one holds. -/
theorem within_of_variants {narrow wide : TypeExpr} (narrowRegular : narrow.Regular) (wideRegular : wide.Regular)
    (texts : ∀ variant ∈ ArrayUnion.variants narrow,
      ∃ other ∈ ArrayUnion.variants wide, other.render settings = variant.render settings) :
    narrow.Within wide := by
  apply (isUnionOf_variants narrow).within (isUnionOf_variants wide)
  rintro Item world item ⟨variant, member, held⟩
  obtain ⟨other, otherMember, sameText⟩ := texts variant member
  refine ⟨other, otherMember, ?_⟩
  exact (heldIn_iff_of_render_eq (wideRegular.variants other otherMember)
    (narrowRegular.variants variant member) sameText).mpr held

theorem Grows.within_object (grows : Grows settings narrows wides) (narrowRegular : RegularProperties narrows)
    (wideRegular : RegularProperties wides) : (object narrows depth).Within (object wides wideDepth) := by
  apply TypeExpr.within_object grows.kept
  · intro wide wideMember required
    have known : wide.key ∈ narrows.map (·.key) := by
      by_contra unknown
      rw [grows.added wide wideMember unknown] at required
      cases required
    obtain ⟨narrow, member, sameKey⟩ := List.mem_map.mp known
    refine ⟨narrow, member, sameKey, ?_⟩
    rw [Bool.eq_false_iff]
    intro optional
    rw [grows.optional narrow member wide wideMember sameKey optional] at required
    cases required
  · intro narrow member wide wideMember sameKey
    exact within_of_variants (regularProperties_iff.mp narrowRegular narrow member)
      (regularProperties_iff.mp wideRegular wide wideMember) (grows.variants narrow member wide wideMember sameKey)

/-- A shape that grows goes on holding what it held. -/
theorem Grows.within (grows : Grows settings narrows wides) (narrowRegular : RegularProperties narrows)
    (wideRegular : RegularProperties wides) : (objectOf narrows depth).Within (objectOf wides wideDepth) :=
  within_objectOf (grows.within_object narrowRegular wideRegular)

end Growth

end TypeExpr

namespace Merge

variable {graph : Graph} {settings : Settings} {opened : List Address} {depth : Int} {objects others : List Value}
  {described otherDescribed : List Described}

section Included

variable (included : ∀ object ∈ objects, object ∈ others)
  (firstObjects : ∀ object ∈ objects, graph.isObject object = true)
  (areObjects : ∀ object ∈ others, graph.isObject object = true)
  (describing : describe graph objects = .ok described) (otherDescribing : describe graph others = .ok otherDescribed)
include included firstObjects areObjects describing otherDescribing

theorem contributors_subset (key : String) : contributors described key ⊆ contributors otherDescribed key := by
  intro contributor member
  obtain ⟨objectMember, hasValue⟩ := (mem_contributors_iff_hasValue firstObjects describing).mp member
  exact (mem_contributors_iff_hasValue areObjects otherDescribing).mpr ⟨included _ objectMember, hasValue⟩

theorem keys_subset : keys described ⊆ keys otherDescribed := by
  intro key known
  obtain ⟨object, member, hasValue⟩ := (mem_keys_iff_hasValue firstObjects describing).mp known
  exact (mem_keys_iff_hasValue areObjects otherDescribing).mpr ⟨object, included object member, hasValue⟩

/-- A key that no object lacks is one that none of the first objects lacks. -/
theorem all_hasKey_of_included {key : String} (allHave : otherDescribed.all (·.hasKey key) = true) :
    described.all (·.hasKey key) = true := by
  rw [all_hasKey_iff firstObjects describing]
  rw [all_hasKey_iff areObjects otherDescribing] at allHave
  exact fun object member => allHave object (included object member)

/-- What the properties of a shape become when the objects of the shape are among more objects. -/
theorem grows_of_built (nonempty : objects ≠ []) {narrows wides : List (Property TypeExpr)}
    (built : List.Forall₂ (BuildsProperty settings (graph.typer settings).Answers opened depth described)
      (keys described) narrows)
    (otherBuilt : List.Forall₂ (BuildsProperty settings (graph.typer settings).Answers opened depth otherDescribed)
      (keys otherDescribed) wides) : TypeExpr.Grows settings narrows wides := by
  have allHave {key : String} (allHave : otherDescribed.all (·.hasKey key) = true) :=
    all_hasKey_of_included included firstObjects areObjects describing otherDescribing allHave
  constructor
  case kept =>
    intro narrow member
    obtain ⟨key, known, types, -, rfl⟩ := built.exists_left member
    have stillKnown := keys_subset included firstObjects areObjects describing otherDescribing known
    obtain ⟨wide, wideMember, wideTypes, -, rfl⟩ := otherBuilt.exists_right stillKnown
    exact ⟨_, wideMember, rfl⟩
  case added =>
    intro wide wideMember unknown
    obtain ⟨key, -, types, -, rfl⟩ := otherBuilt.exists_left wideMember
    rw [Bool.not_eq_true', Bool.eq_false_iff]
    intro required
    obtain ⟨object, objectMember⟩ := List.exists_mem_of_ne_nil objects nonempty
    have hasValue := (all_hasKey_iff firstObjects describing key).mp (allHave required) object objectMember
    have known := (mem_keys_iff_hasValue firstObjects describing).mpr ⟨object, objectMember, hasValue⟩
    obtain ⟨narrow, member, narrowTypes, -, rfl⟩ := built.exists_right known
    exact unknown (List.mem_map.mpr ⟨_, member, rfl⟩)
  case optional =>
    intro narrow member wide wideMember sameKey optional
    obtain ⟨key, -, types, -, rfl⟩ := built.exists_left member
    obtain ⟨otherKey, -, wideTypes, -, rfl⟩ := otherBuilt.exists_left wideMember
    obtain rfl : key = otherKey := sameKey
    rw [Bool.not_eq_true', Bool.eq_false_iff] at optional ⊢
    exact fun required => optional (allHave required)
  case variants =>
    intro narrow member wide wideMember sameKey variant variantMember
    obtain ⟨key, -, types, contributed, rfl⟩ := built.exists_left member
    obtain ⟨otherKey, -, wideTypes, wideContributed, rfl⟩ := otherBuilt.exists_left wideMember
    obtain rfl : key = otherKey := sameKey
    have single := each_of_forall₂ contributed fun _ _ answer => Inference.single_of_answer answer
    have wideSingle := each_of_forall₂ wideContributed fun _ _ answer => Inference.single_of_answer answer
    rw [TypeExpr.variants_sortedUnion single] at variantMember
    rw [TypeExpr.variants_sortedUnion wideSingle]
    -- A value that contributes the variant is among the values of all objects, where it contributes the same.
    have isType := (TypeExpr.represents_sortedByText settings types).mem_of_mem variant variantMember
    obtain ⟨contributor, isContributor, answer⟩ := contributed.exists_left isType
    obtain ⟨wideType, wideTypeMember, wideAnswer⟩ := wideContributed.exists_right
      (contributors_subset included firstObjects areObjects describing otherDescribing key isContributor)
    cases answer.symm.trans wideAnswer
    exact (TypeExpr.represents_sortedByText settings wideTypes).exists_mem variant wideTypeMember

end Included

end Merge

namespace Graph

variable {graph : Graph} {settings : Settings} {opened : List Address} {depth : Int} {objects others : List Value}

theorem MergeFails.of_included (included : ∀ object ∈ objects, object ∈ others) {fault : Fault}
    (fails : graph.MergeFails settings opened depth objects fault) :
    graph.MergeFails settings opened depth others fault := by
  cases fails with
  | noText member hasValue => exact .noText (included _ member) hasValue
  | noType member hasValue failed below => exact .noType (included _ member) hasValue failed below

theorem regularProperties_of_mergeShapes {properties : List (Property TypeExpr)}
    (merged : graph.mergeShapes settings objects depth opened = .ok (.objectOf properties depth)) :
    TypeExpr.RegularProperties properties := by
  have single := (Merge.builds_of_shapes merged).single fun _ _ answer => Inference.single_of_answer answer
  cases properties with
  | nil => trivial
  | cons first others => exact single.2.2

/-- Objects among which there are those of a shape have a shape that grows out of it, or no shape. -/
theorem mergeShapes_included (nonempty : objects ≠ []) (included : ∀ object ∈ objects, object ∈ others)
    (areObjects : ∀ object ∈ others, graph.isObject object = true) :
    (∃ narrows wides, graph.mergeShapes settings objects depth opened = .ok (.objectOf narrows depth) ∧
        graph.mergeShapes settings others depth opened = .ok (.objectOf wides depth) ∧
        TypeExpr.Grows settings narrows wides ∧
        (TypeExpr.objectOf narrows depth).Within (.objectOf wides depth)) ∨
      ∃ fault, graph.mergeShapes settings others depth opened = .error fault ∧
        graph.MergeFails settings opened depth others fault := by
  have firstObjects : ∀ object ∈ objects, graph.isObject object = true :=
    fun object member => areObjects object (included object member)
  cases otherMerged : graph.mergeShapes settings others depth opened with
  | error fault => exact .inr ⟨fault, rfl, mergeFails_of_mergeShapes areObjects otherMerged⟩
  | ok wide =>
      have othersNonempty : others ≠ [] := by
        obtain ⟨object, member⟩ := List.exists_mem_of_ne_nil objects nonempty
        exact List.ne_nil_of_mem (included object member)
      obtain ⟨otherDescribed, wides, otherDescribing, rfl, otherBuilt⟩ :=
        (Merge.builds_of_shapes otherMerged).exists_properties othersNonempty
      cases merged : graph.mergeShapes settings objects depth opened with
      | error fault =>
          have fails := (mergeFails_of_mergeShapes firstObjects merged).of_included included
          exact absurd fails (Merge.merges_of_built areObjects otherDescribing otherBuilt).not_fails
      | ok narrow =>
          obtain ⟨described, narrows, describing, rfl, built⟩ :=
            (Merge.builds_of_shapes merged).exists_properties nonempty
          have grows := Merge.grows_of_built included firstObjects areObjects describing otherDescribing nonempty built
            otherBuilt
          exact .inl ⟨narrows, wides, rfl, rfl, grows,
            grows.within (regularProperties_of_mergeShapes merged) (regularProperties_of_mergeShapes otherMerged)⟩

/-- Another object only widens a merged shape: keys are only added, as optional ones, optional keys stay optional, the
type of a key only gains variants, and what the shape held before it holds afterwards. -/
theorem mergeShapes_widened {added : Value} (nonempty : objects ≠ [])
    (areObjects : ∀ object ∈ objects, graph.isObject object = true) (addedIsObject : graph.isObject added = true) :
    (∃ narrows wides, graph.mergeShapes settings objects depth opened = .ok (.objectOf narrows depth) ∧
        graph.mergeShapes settings (objects ++ [added]) depth opened = .ok (.objectOf wides depth) ∧
        TypeExpr.Grows settings narrows wides ∧
        ∀ (other : Graph) (value : Value), (TypeExpr.objectOf narrows depth).InhabitedBy other value →
          (TypeExpr.objectOf wides depth).InhabitedBy other value) ∨
      ∃ fault, graph.mergeShapes settings (objects ++ [added]) depth opened = .error fault ∧
        graph.MergeFails settings opened depth (objects ++ [added]) fault := by
  have allObjects : ∀ object ∈ objects ++ [added], graph.isObject object = true := by
    intro object member
    obtain isFirst | isAdded := List.mem_append.mp member
    · exact areObjects object isFirst
    · rw [List.mem_singleton.mp isAdded]
      exact addedIsObject
  obtain ⟨narrows, wides, merged, otherMerged, grows, within⟩ | failed :=
    mergeShapes_included nonempty (fun _ => List.mem_append_left _) allObjects
  · exact .inl ⟨narrows, wides, merged, otherMerged, grows, fun _ _ => within.inhabitedBy⟩
  · exact .inr failed

/-- An object with a key is added to an object without keys. -/
theorem mergeShapes_widened_colliding :
    [Value.container 1] ≠ [] ∧ (∀ object ∈ [Value.container 1], colliding.isObject object = true) ∧
      colliding.isObject (.container 0) = true ∧
      TypeExpr.Grows {} [] [collidingProperty] ∧
      ∀ (other : Graph) (value : Value), TypeExpr.emptyObject.InhabitedBy other value →
        (TypeExpr.object [collidingProperty] 0).InhabitedBy other value := by
  have nonempty : [Value.container 1] ≠ [] := List.cons_ne_nil _ _
  have areObjects : ∀ object ∈ [Value.container 1], colliding.isObject object = true := by decide
  have addedIsObject : colliding.isObject (.container 0) = true := by decide
  have merged : colliding.mergeShapes {} [.container 1] = .ok .emptyObject := by rfl
  have otherMerged :
      colliding.mergeShapes {} ([.container 1] ++ [.container 0]) = .ok (.object [collidingProperty] 0) := by rfl
  refine ⟨nonempty, areObjects, addedIsObject, ?_⟩
  obtain ⟨narrows, wides, sameMerged, sameOther, grows, within⟩ | ⟨fault, failed, -⟩ :=
    mergeShapes_widened nonempty areObjects addedIsObject
  · have narrowShape := Except.ok.inj (merged.symm.trans sameMerged)
    have wideShape := Except.ok.inj (otherMerged.symm.trans sameOther)
    rw [← narrowShape, ← wideShape] at within
    obtain rfl : narrows = [] := TypeExpr.objectOf_eq_emptyObject_iff.mp narrowShape.symm
    obtain rfl : wides = [collidingProperty] := by
      cases wides with
      | nil => cases wideShape
      | cons first others =>
          cases wideShape
          rfl
    exact ⟨grows, within⟩
  · cases otherMerged.symm.trans failed

end Graph

end SampleTypes
