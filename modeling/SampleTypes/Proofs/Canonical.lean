import SampleTypes.Proofs.Arrangement
import SampleTypes.Proofs.Inhabitation

/-!
# Canonical forms

In the canonical form of a type the members of every union are in the order of their texts in the default
settings, each of them once, and nothing has a depth.  Two types have the same canonical form if they differ
in no more than their layout and the order and repetition of members.
-/

namespace SampleTypes

namespace TypeExpr

mutual

/-- The type without depths, the members of every union sorted by their texts, repeated ones left out. -/
def canonical : TypeExpr → TypeExpr
  | .primitive name => .primitive name
  | .callable => .callable
  | .circular => .circular
  | .record value => .record value.canonical
  | .array element => .array element.canonical
  | .object properties _ => .object (canonicalProperties properties) 0
  | .union members _ _ => sortedUnion {} (canonicalMembers members)

def canonicalMembers : List TypeExpr → List TypeExpr
  | [] => []
  | member :: members => member.canonical :: canonicalMembers members

def canonicalProperties : List (Property TypeExpr) → List (Property TypeExpr)
  | [] => []
  | ⟨key, value, optional⟩ :: properties =>
      ⟨key, value.canonical, optional⟩ :: canonicalProperties properties

end

theorem canonicalMembers_eq_map (members : List TypeExpr) :
    canonicalMembers members = members.map canonical := by
  induction members with
  | nil => rfl
  | cons member members induction => rw [canonicalMembers, induction, List.map_cons]

theorem canonicalProperties_eq_map (properties : List (Property TypeExpr)) :
    canonicalProperties properties =
      properties.map fun property => ⟨property.key, property.value.canonical, property.optional⟩ := by
  induction properties with
  | nil => rfl
  | cons property properties induction => rw [canonicalProperties, induction, List.map_cons]

theorem canonical_union (members : List TypeExpr) (depth : Int) (multiline : Bool) :
    (union members depth multiline).canonical = sortedUnion {} (members.map canonical) := by
  rw [canonical, canonicalMembers_eq_map]

section Depths

variable {onLines onOneLine : Int → Int}

mutual

/-- Depths do not show in canonical forms. -/
theorem canonical_mapDepths (type : TypeExpr) :
    (type.mapDepths onLines onOneLine).canonical = type.canonical := by
  cases type with
  | primitive name => rfl
  | callable => rfl
  | circular => rfl
  | record value => rw [mapDepths, canonical, canonical, canonical_mapDepths value]
  | array element => rw [mapDepths, canonical, canonical, canonical_mapDepths element]
  | object properties depth =>
      rw [mapDepths, canonical, canonical, canonicalProperties_mapDepths properties]
  | union members depth multiline =>
      rw [mapDepths, canonical, canonical, canonicalMembers_mapDepths members]

theorem canonicalMembers_mapDepths (members : List TypeExpr) :
    canonicalMembers (mapDepthsMembers onLines onOneLine members) = canonicalMembers members := by
  cases members with
  | nil => rfl
  | cons member members =>
      rw [mapDepthsMembers, canonicalMembers, canonicalMembers, canonical_mapDepths member,
        canonicalMembers_mapDepths members]

theorem canonicalProperties_mapDepths (properties : List (Property TypeExpr)) :
    canonicalProperties (mapDepthsProperties onLines onOneLine properties) =
      canonicalProperties properties := by
  cases properties with
  | nil => rfl
  | cons property properties =>
      obtain ⟨key, value, optional⟩ := property
      rw [mapDepthsProperties, canonicalProperties, canonicalProperties, canonical_mapDepths value,
        canonicalProperties_mapDepths properties]

end

end Depths

section SameText

variable {settings : Settings} {left right : TypeExpr} (leftRegular : left.Regular)
  (rightRegular : right.Regular) (same : left.render settings = right.render settings)
include leftRegular rightRegular same

theorem canonical_eq_of_render_eq : left.canonical = right.canonical := by
  have alike := normal_eq_of_render_eq settings leftRegular rightRegular same
  calc
    left.canonical = (left.normal settings).canonical := (canonical_mapDepths left).symm
    _ = (right.normal settings).canonical := by rw [alike]
    _ = right.canonical := canonical_mapDepths right

theorem spansLines_eq_of_render_eq : left.spansLines = right.spansLines := by
  have alike := normal_eq_of_render_eq settings leftRegular rightRegular same
  calc
    left.spansLines = (left.normal settings).spansLines := (spansLines_mapDepths left).symm
    _ = (right.normal settings).spansLines := by rw [alike]
    _ = right.spansLines := spansLines_mapDepths right

end SameText

/-- A type that may stand for a value and is laid out like an inferred one.  Such types are told apart by
their texts. -/
structure Comparable (type : TypeExpr) : Prop where
  single : type.Single
  arranged : type.Arranged false

namespace Comparable

variable {left right : TypeExpr}

theorem eq_of_render_eq (leftComparable : left.Comparable) (rightComparable : right.Comparable)
    (same : left.render {} = right.render {}) : left = right := by
  have alike := normal_eq_of_render_eq {} leftComparable.single.2 rightComparable.single.2 same
  have indented : 0 < ({} : Settings).indent := by decide
  rwa [normal_eq_self indented left leftComparable.arranged,
    normal_eq_self indented right rightComparable.arranged] at alike

/-- Comparable types are told apart by their texts. -/
theorem toldApart {types : List TypeExpr} (comparable : ∀ type ∈ types, type.Comparable) :
    ToldApart {} types :=
  fun left leftMember right rightMember =>
    (comparable left leftMember).eq_of_render_eq (comparable right rightMember)

end Comparable

theorem isUnion_canonical {type : TypeExpr} (noUnion : type.isUnion = false) :
    type.canonical.isUnion = false := by
  cases type with
  | union members depth multiline => cases noUnion
  | _ => rfl

theorem arranged_unionOf {members : List TypeExpr}
    (arranged : ∀ inArray, ∀ member ∈ members, member.Arranged inArray) (inArray : Bool) :
    (unionOf members).Arranged inArray := by
  rcases unionOf_cases members 0 false with ⟨member, rfl, same⟩ | ⟨-, same⟩
  · rw [same]
    exact arranged inArray member List.mem_cons_self
  · rw [same]
    exact ⟨rfl, arrangedMembers_iff.mpr (arranged false)⟩

mutual

theorem arranged_canonical (type : TypeExpr) (inArray : Bool) : type.canonical.Arranged inArray := by
  cases type with
  | primitive name => exact trivial
  | callable => exact trivial
  | circular => exact trivial
  | record value => exact arranged_canonical value false
  | array element => exact arranged_canonical element true
  | object properties depth => exact ⟨Int.le_refl 0, arranged_canonicalProperties properties⟩
  | union members depth multiline =>
      rw [canonical, sortedUnion_eq]
      apply arranged_unionOf
      intro inArray member isMember
      exact arranged_canonicalMembers members inArray member
        ((represents_sortedByText {} _).mem_of_mem member isMember)

theorem arranged_canonicalMembers (members : List TypeExpr) (inArray : Bool) :
    ∀ member ∈ canonicalMembers members, member.Arranged inArray := by
  cases members with
  | nil => exact fun member impossible => absurd impossible List.not_mem_nil
  | cons first others =>
      intro member isMember
      rcases List.mem_cons.mp isMember with rfl | later
      · exact arranged_canonical first inArray
      · exact arranged_canonicalMembers others inArray member later

theorem arranged_canonicalProperties (properties : List (Property TypeExpr)) :
    ArrangedProperties (canonicalProperties properties) := by
  cases properties with
  | nil => exact trivial
  | cons property properties =>
      obtain ⟨key, value, optional⟩ := property
      exact ⟨arranged_canonical value false, arranged_canonicalProperties properties⟩

end

mutual

theorem regular_canonical (type : TypeExpr) (regular : type.Regular) : type.canonical.Regular := by
  cases type with
  | primitive name => exact regular
  | callable => exact trivial
  | circular => exact trivial
  | record value => exact regular_canonical value regular
  | array element => exact regular_canonical element regular
  | object properties depth =>
      refine ⟨?_, regular_canonicalProperties properties regular.2⟩
      rw [canonicalProperties_eq_map]
      exact List.map_eq_nil_iff.not.mpr regular.1
  | union members depth multiline =>
      rw [canonical]
      apply regular_sortedUnion
      · rw [canonicalMembers_eq_map]
        exact List.map_eq_nil_iff.not.mpr (List.ne_nil_of_length_pos (by have := regular.1; omega))
      · exact regularMembers_iff.mp (regular_canonicalMembers members regular.2)

theorem regular_canonicalMembers (members : List TypeExpr) (regular : RegularMembers members) :
    RegularMembers (canonicalMembers members) := by
  cases members with
  | nil => exact trivial
  | cons member members =>
      obtain ⟨noUnion, memberRegular, membersRegular⟩ := regular
      exact ⟨isUnion_canonical noUnion, regular_canonical member memberRegular,
        regular_canonicalMembers members membersRegular⟩

theorem regular_canonicalProperties (properties : List (Property TypeExpr))
    (regular : RegularProperties properties) : RegularProperties (canonicalProperties properties) := by
  cases properties with
  | nil => exact trivial
  | cons property properties =>
      obtain ⟨key, value, optional⟩ := property
      exact ⟨regular_canonical value regular.1, regular_canonicalProperties properties regular.2⟩

end

theorem Single.comparable_canonical {type : TypeExpr} (single : type.Single) : type.canonical.Comparable where
  single := ⟨isUnion_canonical single.1, regular_canonical type single.2⟩
  arranged := arranged_canonical type false

section Values

variable {graph : Graph}

mutual

/-- A type holds the values that its canonical form holds. -/
theorem inhabitedBy_canonical_iff (type : TypeExpr) (regular : type.Regular) (value : Value) :
    type.canonical.InhabitedBy graph value ↔ type.InhabitedBy graph value := by
  cases type with
  | primitive name => rfl
  | callable => rfl
  | circular => rfl
  | record inner => simp only [canonical, InhabitedBy, inhabitedBy_canonical_iff inner regular]
  | array element => simp only [canonical, InhabitedBy, inhabitedBy_canonical_iff element regular]
  | object properties depth =>
      have keys (key : Except Fault String) :
          (∃ property ∈ canonicalProperties properties, key = .ok property.key) ↔
            ∃ property ∈ properties, key = .ok property.key := by
        simp [canonicalProperties_eq_map]
      simp only [canonical, InhabitedBy, keys, propertiesInhabitedBy_canonical_iff properties regular.2]
  | union members depth multiline =>
      have single := regularMembers_iff.mp (regular_canonicalMembers members regular.2)
      rw [canonical, inhabitedBy_sortedUnion_iff single, ← someInhabitedBy_iff]
      exact someInhabitedBy_canonical_iff members regular.2 value

theorem someInhabitedBy_canonical_iff (members : List TypeExpr) (regular : RegularMembers members)
    (value : Value) :
    SomeInhabitedBy graph (canonicalMembers members) value ↔ SomeInhabitedBy graph members value := by
  cases members with
  | nil => rfl
  | cons member members =>
      rw [canonicalMembers, SomeInhabitedBy, SomeInhabitedBy, inhabitedBy_canonical_iff member regular.2.1,
        someInhabitedBy_canonical_iff members regular.2.2]

theorem propertiesInhabitedBy_canonical_iff (properties : List (Property TypeExpr))
    (regular : RegularProperties properties) (node : Node) :
    PropertiesInhabitedBy graph (canonicalProperties properties) node ↔
      PropertiesInhabitedBy graph properties node := by
  cases properties with
  | nil => rfl
  | cons property properties =>
      obtain ⟨key, value, optional⟩ := property
      simp only [canonicalProperties, PropertiesInhabitedBy, inhabitedBy_canonical_iff value regular.1,
        propertiesInhabitedBy_canonical_iff properties regular.2]

end

end Values

section Unions

variable {settings : Settings} {types variants : List TypeExpr}

theorem comparable_map_canonical (single : ∀ type ∈ types, type.Single) :
    ∀ type ∈ types.map canonical, type.Comparable := by
  intro type member
  obtain ⟨original, originalMember, rfl⟩ := List.mem_map.mp member
  exact (single original originalMember).comparable_canonical

/-- A union of one type or several has the canonical form of a union. -/
theorem canonical_unionOf (members : List TypeExpr) (depth : Int) (multiline : Bool) :
    (unionOf members depth multiline).canonical = sortedUnion {} (members.map canonical) := by
  rcases unionOf_cases members depth multiline with ⟨member, rfl, same⟩ | ⟨-, same⟩
  · rw [same]
    rfl
  · rw [same, canonical_union]

theorem Represents.mem_map_canonical_iff (represents : Represents settings variants types)
    (single : ∀ type ∈ types, type.Single) (form : TypeExpr) :
    form ∈ variants.map canonical ↔ form ∈ types.map canonical := by
  rw [List.mem_map, List.mem_map]
  constructor
  · rintro ⟨variant, member, same⟩
    exact ⟨variant, represents.mem_of_mem variant member, same⟩
  · rintro ⟨type, member, same⟩
    obtain ⟨variant, variantMember, sameText⟩ := represents.exists_mem type member
    have variantSingle := single variant (represents.mem_of_mem variant variantMember)
    exact ⟨variant, variantMember,
      (canonical_eq_of_render_eq variantSingle.2 (single type member).2 sameText).trans same⟩

/-- The variants of some types have the canonical form of a union of the types. -/
theorem Represents.sortedUnion_canonical (represents : Represents settings variants types)
    (single : ∀ type ∈ types, type.Single) :
    sortedUnion {} (variants.map canonical) = sortedUnion {} (types.map canonical) :=
  (Comparable.toldApart (comparable_map_canonical (represents.single single))).sortedUnion_eq
    (represents.mem_map_canonical_iff single)

theorem Represents.any_spansLines (represents : Represents settings variants types)
    (single : ∀ type ∈ types, type.Single) :
    variants.any (·.spansLines) = types.any (·.spansLines) := by
  rw [Bool.eq_iff_iff, List.any_eq_true, List.any_eq_true]
  constructor
  · rintro ⟨variant, member, spans⟩
    exact ⟨variant, represents.mem_of_mem variant member, spans⟩
  · rintro ⟨type, member, spans⟩
    obtain ⟨variant, variantMember, sameText⟩ := represents.exists_mem type member
    have variantSingle := single variant (represents.mem_of_mem variant variantMember)
    rw [← spansLines_eq_of_render_eq variantSingle.2 (single type member).2 sameText] at spans
    exact ⟨variant, variantMember, spans⟩

theorem spansLines_unionOf (members : List TypeExpr) :
    (unionOf members).spansLines = members.any (·.spansLines) := by
  rcases unionOf_cases members 0 false with ⟨member, rfl, same⟩ | ⟨-, same⟩
  · rw [same, List.any_cons, List.any_nil, Bool.or_false]
  · rw [same, spansLines, Bool.false_or, anySpansLines_eq_any]

theorem canonical_sortedUnion (single : ∀ type ∈ types, type.Single) :
    (sortedUnion settings types).canonical = sortedUnion {} (types.map canonical) := by
  rw [sortedUnion_eq, canonical_unionOf,
    (represents_sortedByText settings types).sortedUnion_canonical single]

theorem canonical_unionOf_distinctByText (single : ∀ type ∈ types, type.Single) (depth : Int)
    (multiline : Bool) :
    (unionOf (distinctByText settings types) depth multiline).canonical =
      sortedUnion {} (types.map canonical) := by
  rw [canonical_unionOf, (represents_distinctByText settings types).sortedUnion_canonical single]

theorem spansLines_sortedUnion (single : ∀ type ∈ types, type.Single) :
    (sortedUnion settings types).spansLines = types.any (·.spansLines) := by
  rw [sortedUnion_eq, spansLines_unionOf, (represents_sortedByText settings types).any_spansLines single]

theorem spansLines_unionOf_distinctByText (single : ∀ type ∈ types, type.Single) :
    (unionOf (distinctByText settings types)).spansLines = types.any (·.spansLines) := by
  rw [spansLines_unionOf, (represents_distinctByText settings types).any_spansLines single]

end Unions

section Arrays

open ArrayUnion

/-- The variants of a regular type have the canonical forms that are the variants of its canonical form. -/
theorem mem_variants_canonical_iff {type : TypeExpr} (regular : type.Regular) (form : TypeExpr) :
    form ∈ variants type.canonical ↔ form ∈ (variants type).map canonical := by
  cases type with
  | union members depth multiline =>
      have comparable := comparable_map_canonical (regularMembers_iff.mp regular.2)
      have noUnions : ∀ member ∈ sortedByText {} (members.map canonical), member.isUnion = false := by
        intro member isMember
        exact (comparable member ((Comparable.toldApart comparable).mem_sortedByText_iff.mp isMember)).single.1
      rw [canonical_union, sortedUnion_eq, variants_unionOf noUnions,
        (Comparable.toldApart comparable).mem_sortedByText_iff]
      rfl
  | _ => rfl

theorem Single.mem_unwrapArray_canonical_iff {type : TypeExpr} (single : type.Single) (form : TypeExpr) :
    form ∈ type.canonical.unwrapArray ↔ form ∈ type.unwrapArray.map canonical := by
  cases type with
  | array element =>
      have elementRegular : element.Regular := single.2
      rw [canonical, unwrapArray_array, unwrapArray_array]
      exact mem_variants_canonical_iff elementRegular form
  | union members depth multiline => cases single.1
  | _ => rfl

variable {left right : Settings} {types others : List TypeExpr}

/-- The canonical forms of the parts are the parts of the canonical forms. -/
theorem mem_parts_iff (single : ∀ type ∈ types, type.Single) (form : TypeExpr) :
    form ∈ (types.flatMap unwrapArray).map canonical ↔
      ∃ whole ∈ types.map canonical, form ∈ whole.unwrapArray := by
  simp only [List.map_flatMap, List.mem_flatMap]
  constructor
  · rintro ⟨type, member, isPart⟩
    exact ⟨type.canonical, List.mem_map_of_mem member,
      ((single type member).mem_unwrapArray_canonical_iff form).mpr isPart⟩
  · rintro ⟨whole, wholeMember, isPart⟩
    obtain ⟨type, member, rfl⟩ := List.mem_map.mp wholeMember
    exact ⟨type, member, ((single type member).mem_unwrapArray_canonical_iff form).mp isPart⟩

/-- Types with the same canonical forms make arrays of arrays with the same canonical form. -/
theorem canonical_arrayOfArrays_eq (single : ∀ type ∈ types, type.Single)
    (otherSingle : ∀ type ∈ others, type.Single)
    (sameForms : ∀ form, form ∈ types.map canonical ↔ form ∈ others.map canonical) :
    (arrayOfArrays left types).canonical = (arrayOfArrays right others).canonical := by
  have parts := single_flatMap_unwrapArray single
  have sameParts : sortedUnion {} ((types.flatMap unwrapArray).map canonical) =
      sortedUnion {} ((others.flatMap unwrapArray).map canonical) := by
    apply (Comparable.toldApart (comparable_map_canonical parts)).sortedUnion_eq
    intro form
    rw [mem_parts_iff single, mem_parts_iff otherSingle]
    simp only [sameForms]
  rw [arrayOfArrays, arrayOfArrays, canonical, canonical, canonical, canonical, canonical_sortedUnion parts,
    canonical_sortedUnion (single_flatMap_unwrapArray otherSingle), sameParts]

end Arrays

end TypeExpr

end SampleTypes
