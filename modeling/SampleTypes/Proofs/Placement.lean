import SampleTypes.Proofs.Circularity
import SampleTypes.Proofs.InferredDepths
import SampleTypes.Proofs.Restyling

/-!
# Places of types

The depths in a type follow from where the type is laid out, apart from one choice.  The elements of an array of
arrays go into one union, and these are either at the depth at which an array of objects lays them out, which is
that of the array itself, or one level deeper, where an array of mixed elements lays them out.  Types of which all
parts are in their places are equal if they are equal without depths.
-/

namespace SampleTypes

namespace TypeExpr

mutual

/-- Whether every part of a type is at the depth that follows from its place.  Behind an array that is the
element of an array the depth is greater by one if `byRows` holds; otherwise it is greater by one in a union that
is the element of an array. -/
def LaidOut (byRows : Bool) : (inArray : Bool) → (depth : Int) → TypeExpr → Prop
  | _, _, .primitive _ | _, _, .callable | _, _, .circular => True
  | _, _, .record value => value = .never
  | inArray, depth, .array element =>
      element.LaidOut byRows true (if byRows && inArray then depth + 1 else depth)
  | _, depth, .object properties objectDepth =>
      objectDepth = depth ∧ PropertiesLaidOut byRows (depth + 1) properties
  | inArray, depth, .union members unionDepth multiline =>
      unionDepth = (if multiline then depth else 0) ∧
        MembersLaidOut byRows (byRows && inArray) (if !byRows && inArray then depth + 1 else depth) members

def MembersLaidOut (byRows inArray : Bool) (depth : Int) : List TypeExpr → Prop
  | [] => True
  | member :: members => member.LaidOut byRows inArray depth ∧ MembersLaidOut byRows inArray depth members

def PropertiesLaidOut (byRows : Bool) (depth : Int) : List (Property TypeExpr) → Prop
  | [] => True
  | ⟨_, value, _⟩ :: properties =>
      value.LaidOut byRows false depth ∧ PropertiesLaidOut byRows depth properties

end

section LaidOut

variable {byRows inArray : Bool} {depth : Int}

theorem membersLaidOut_iff {members : List TypeExpr} :
    MembersLaidOut byRows inArray depth members ↔
      ∀ member ∈ members, member.LaidOut byRows inArray depth := by
  induction members with
  | nil => simp [MembersLaidOut]
  | cons member members induction => simp [MembersLaidOut, induction]

theorem propertiesLaidOut_iff {properties : List (Property TypeExpr)} :
    PropertiesLaidOut byRows depth properties ↔
      ∀ property ∈ properties, property.value.LaidOut byRows false depth := by
  induction properties with
  | nil => simp [PropertiesLaidOut]
  | cons property properties induction => simp [PropertiesLaidOut, induction]

mutual

/-- Types in the same place are equal if they are equal without depths. -/
theorem LaidOut.eq_of_withoutDepths_eq {byRows inArray : Bool} {depth : Int} (left right : TypeExpr)
    (leftPlace : left.LaidOut byRows inArray depth) (rightPlace : right.LaidOut byRows inArray depth)
    (same : left.withoutDepths = right.withoutDepths) : left = right := by
  cases left with
  | primitive name =>
      cases right with
      | primitive other => exact same
      | _ => cases same
  | callable =>
      cases right with
      | callable => rfl
      | _ => cases same
  | circular =>
      cases right with
      | circular => rfl
      | _ => cases same
  | record value =>
      cases right with
      | record other =>
          have isNever : value = .never := leftPlace
          have otherIsNever : other = .never := rightPlace
          rw [isNever, otherIsNever]
      | _ => cases same
  | array element =>
      cases right with
      | array other =>
          rw [eq_of_withoutDepths_eq element other leftPlace rightPlace (TypeExpr.array.inj same)]
      | _ => cases same
  | object properties depth =>
      cases right with
      | object others otherDepth =>
          obtain ⟨sameProperties, -⟩ := TypeExpr.object.inj same
          rw [leftPlace.1, rightPlace.1,
            LaidOut.properties_eq properties others leftPlace.2 rightPlace.2 sameProperties]
      | _ => cases same
  | union members depth multiline =>
      cases right with
      | union others otherDepth otherMultiline =>
          obtain ⟨sameMembers, -, rfl⟩ := TypeExpr.union.inj same
          rw [leftPlace.1, rightPlace.1,
            LaidOut.members_eq members others leftPlace.2 rightPlace.2 sameMembers]
      | _ => cases same

theorem LaidOut.members_eq {byRows inArray : Bool} {depth : Int} (lefts rights : List TypeExpr)
    (leftPlaces : MembersLaidOut byRows inArray depth lefts)
    (rightPlaces : MembersLaidOut byRows inArray depth rights)
    (same : mapDepthsMembers (fun _ => 0) (fun _ => 0) lefts =
      mapDepthsMembers (fun _ => 0) (fun _ => 0) rights) : lefts = rights := by
  cases lefts with
  | nil =>
      cases rights with
      | nil => rfl
      | cons right rights => cases same
  | cons left lefts =>
      cases rights with
      | nil => cases same
      | cons right rights =>
          obtain ⟨sameFirst, sameOthers⟩ := List.cons.inj same
          rw [LaidOut.eq_of_withoutDepths_eq left right leftPlaces.1 rightPlaces.1 sameFirst,
            LaidOut.members_eq lefts rights leftPlaces.2 rightPlaces.2 sameOthers]

theorem LaidOut.properties_eq {byRows : Bool} {depth : Int} (lefts rights : List (Property TypeExpr))
    (leftPlaces : PropertiesLaidOut byRows depth lefts)
    (rightPlaces : PropertiesLaidOut byRows depth rights)
    (same : mapDepthsProperties (fun _ => 0) (fun _ => 0) lefts =
      mapDepthsProperties (fun _ => 0) (fun _ => 0) rights) : lefts = rights := by
  cases lefts with
  | nil =>
      cases rights with
      | nil => rfl
      | cons right rights => cases same
  | cons left lefts =>
      obtain ⟨key, value, optional⟩ := left
      cases rights with
      | nil => cases same
      | cons right rights =>
          obtain ⟨otherKey, otherValue, otherOptional⟩ := right
          obtain ⟨sameFirst, sameOthers⟩ := List.cons.inj same
          obtain ⟨rfl, sameValue, rfl⟩ := Property.mk.inj sameFirst
          rw [LaidOut.eq_of_withoutDepths_eq value otherValue leftPlaces.1 rightPlaces.1 sameValue,
            LaidOut.properties_eq lefts rights leftPlaces.2 rightPlaces.2 sameOthers]

end

mutual

/-- A type on a single line is laid out anywhere if it is laid out somewhere. -/
theorem LaidOut.everywhere {byRows inArray : Bool} {depth : Int} (type : TypeExpr)
    (place : type.LaidOut byRows inArray depth) (oneLine : type.spansLines = false)
    (otherRows otherInArray : Bool) (otherDepth : Int) : type.LaidOut otherRows otherInArray otherDepth := by
  cases type with
  | primitive name => exact trivial
  | callable => exact trivial
  | circular => exact trivial
  | record value => exact place
  | array element => exact LaidOut.everywhere element place oneLine _ _ _
  | object properties depth => cases oneLine
  | union members depth multiline =>
      rw [spansLines, Bool.or_eq_false_iff] at oneLine
      obtain ⟨rfl, membersOneLine⟩ := oneLine
      exact ⟨place.1, LaidOut.membersEverywhere members place.2 membersOneLine _ _ _⟩

theorem LaidOut.membersEverywhere {byRows inArray : Bool} {depth : Int} (members : List TypeExpr)
    (places : MembersLaidOut byRows inArray depth members) (oneLine : anySpansLines members = false)
    (otherRows otherInArray : Bool) (otherDepth : Int) :
    MembersLaidOut otherRows otherInArray otherDepth members := by
  cases members with
  | nil => exact trivial
  | cons member members =>
      rw [anySpansLines, Bool.or_eq_false_iff] at oneLine
      exact ⟨LaidOut.everywhere member places.1 oneLine.1 _ _ _,
        LaidOut.membersEverywhere members places.2 oneLine.2 _ _ _⟩

end

/-- What occurs in a type that is laid out has a place itself. -/
theorem LaidOut.of_occurs {part whole : TypeExpr} (occurs : Occurs part whole)
    (place : whole.LaidOut byRows inArray depth) :
    ∃ partInArray partDepth, part.LaidOut byRows partInArray partDepth := by
  induction occurs generalizing inArray depth with
  | here => exact ⟨_, _, place⟩
  | @value value below induction =>
      have isNever : value = .never := place
      rw [isNever] at induction
      exact @induction false 0 trivial
  | element below induction => exact induction place
  | property member below induction => exact induction (propertiesLaidOut_iff.mp place.2 _ member)
  | member isMember below induction => exact induction (membersLaidOut_iff.mp place.2 _ isMember)

/-- In a type that is laid out the members of every union differ in more than depths, if they differ at all. -/
theorem LaidOut.pairwise_withoutDepths_ne {whole : TypeExpr} (place : whole.LaidOut byRows inArray depth)
    {members : List TypeExpr} {unionDepth : Int} {multiline : Bool}
    (occurs : Occurs (.union members unionDepth multiline) whole)
    (differ : members.Pairwise fun earlier later => earlier ≠ later) :
    members.Pairwise fun earlier later => earlier.withoutDepths ≠ later.withoutDepths := by
  obtain ⟨unionInArray, placeDepth, -, places⟩ := LaidOut.of_occurs occurs place
  rw [membersLaidOut_iff] at places
  apply differ.imp_of_mem
  intro earlier later earlierMember laterMember different same
  exact different (LaidOut.eq_of_withoutDepths_eq earlier later (places earlier earlierMember)
    (places later laterMember) same)

end LaidOut

section Unions

variable {settings : Settings} {byRows inArray : Bool} {depth : Int} {types : List TypeExpr}

/-- A union is laid out where its members are, unless it is an element that takes its members further in. -/
theorem laidOut_unionOf (level : inArray = true → byRows = true)
    (places : ∀ type ∈ types, type.LaidOut byRows inArray depth) :
    (unionOf types).LaidOut byRows inArray depth := by
  have sameInArray : (byRows && inArray) = inArray := by
    cases inArray with
    | false => exact Bool.and_false byRows
    | true => rw [level rfl, Bool.and_true]
  have sameDepth : (!byRows && inArray) = false := by
    cases inArray with
    | false => exact Bool.and_false _
    | true => rw [level rfl, Bool.not_true, Bool.false_and]
  rcases unionOf_cases types 0 false with ⟨member, rfl, same⟩ | ⟨-, same⟩
  · rw [same]
    exact places member List.mem_cons_self
  · rw [same, LaidOut, sameInArray, sameDepth]
    exact ⟨rfl, membersLaidOut_iff.mpr places⟩

theorem laidOut_sortedUnion (level : inArray = true → byRows = true)
    (places : ∀ type ∈ types, type.LaidOut byRows inArray depth) :
    (sortedUnion settings types).LaidOut byRows inArray depth := by
  rw [sortedUnion_eq]
  apply laidOut_unionOf level
  intro type member
  exact places type ((represents_sortedByText settings types).mem_of_mem type member)

theorem laidOut_array {element : TypeExpr} (place : element.LaidOut byRows true depth) :
    (array element).LaidOut byRows false depth := by
  rw [LaidOut, Bool.and_false]
  exact place

/-- A union that is an element takes its members one level further in, and a single member does not get there if
it is on a single line. -/
theorem laidOut_unionOf_element (places : ∀ type ∈ types, type.LaidOut false false (depth + 1))
    (alone : ∀ type, types = [type] → type.spansLines = false) :
    (unionOf types).LaidOut false true depth := by
  rcases unionOf_cases types 0 false with ⟨member, rfl, same⟩ | ⟨-, same⟩
  · rw [same]
    exact LaidOut.everywhere member (places member List.mem_cons_self) (alone member rfl) _ _ _
  · rw [same]
    exact ⟨rfl, membersLaidOut_iff.mpr places⟩

/-- Where rows do not count, a type that is no union is laid out alike as an element. -/
theorem LaidOut.element {type : TypeExpr} (place : type.LaidOut false inArray depth)
    (noUnion : type.isUnion = false) (otherInArray : Bool) : type.LaidOut false otherInArray depth := by
  cases type with
  | union members depth multiline => cases noUnion
  | _ => exact place

/-- Where rows count, a type that is neither an object nor a union is one level less deep as an element. -/
theorem LaidOut.row {type : TypeExpr} (place : type.LaidOut true false (depth + 1)) (noUnion : type.isUnion = false)
    (noObject : ∀ properties depth, type ≠ .object properties depth) : type.LaidOut true true depth := by
  cases type with
  | object properties depth => exact absurd rfl (noObject properties depth)
  | union members depth multiline => cases noUnion
  | _ => exact place

/-- Without its array a row is one level deeper. -/
theorem LaidOut.unwrapArray {type : TypeExpr} (place : type.LaidOut true true depth)
    (noUnion : type.isUnion = false) (noObject : ∀ properties depth, type ≠ .object properties depth) :
    ∀ part ∈ type.unwrapArray, part.LaidOut true true (depth + 1) := by
  intro part member
  cases type with
  | array element =>
      rw [unwrapArray_array] at member
      cases element with
      | union members unionDepth multiline => exact membersLaidOut_iff.mp place.2 part member
      | _ =>
          rw [List.mem_singleton.mp member]
          exact place
  | object properties depth => exact absurd rfl (noObject properties depth)
  | union members depth multiline => cases noUnion
  | _ =>
      rw [List.mem_singleton.mp member]
      exact place

theorem laidOut_arrayOfArrays (places : ∀ type ∈ types, type.LaidOut true true depth)
    (noUnions : ∀ type ∈ types, type.isUnion = false)
    (noObjects : ∀ type ∈ types, ∀ properties depth, type ≠ .object properties depth) :
    (ArrayUnion.arrayOfArrays settings types).LaidOut true false depth := by
  have union : (sortedUnion settings (types.flatMap TypeExpr.unwrapArray)).LaidOut true true (depth + 1) := by
    apply laidOut_sortedUnion fun _ => rfl
    intro part partMember
    obtain ⟨type, member, isPart⟩ := List.mem_flatMap.mp partMember
    exact (places type member).unwrapArray (noUnions type member) (noObjects type member) part isPart
  exact union

theorem spansLines_of_mem_unwrapArray {type part : TypeExpr} (member : part ∈ type.unwrapArray)
    (spans : part.spansLines = true) : type.spansLines = true := by
  cases type with
  | array element =>
      rw [unwrapArray_array] at member
      cases element with
      | union members unionDepth multiline =>
          have someMember : members.any spansLines = true := List.any_eq_true.mpr ⟨part, member, spans⟩
          rw [spansLines, spansLines, anySpansLines_eq_any, someMember, Bool.or_true]
      | _ =>
          rw [List.mem_singleton.mp member] at spans
          exact spans
  | _ =>
      rw [List.mem_singleton.mp member] at spans
      exact spans

/-- An array of arrays spans lines only if one of the types in it does. -/
theorem exists_spansLines_of_arrayOfArrays (single : ∀ type ∈ types, type.Single)
    (spans : (ArrayUnion.arrayOfArrays settings types).spansLines = true) :
    ∃ type ∈ types, type.spansLines = true := by
  rw [ArrayUnion.arrayOfArrays, spansLines, spansLines, spansLines_sortedUnion (single_flatMap_unwrapArray single),
    List.any_eq_true] at spans
  obtain ⟨part, partMember, partSpans⟩ := spans
  obtain ⟨type, member, isPart⟩ := List.mem_flatMap.mp partMember
  exact ⟨type, member, spansLines_of_mem_unwrapArray isPart partSpans⟩

/-- Types on a single line make an array of arrays on a single line, which is laid out anywhere. -/
theorem laidOut_arrayOfArrays_of_oneLine (single : ∀ type ∈ types, type.Single)
    (somewhere : ∀ type ∈ types, ∃ otherRows otherInArray otherDepth,
      type.LaidOut otherRows otherInArray otherDepth)
    (oneLine : ∀ type ∈ types, type.spansLines = false) :
    (ArrayUnion.arrayOfArrays settings types).LaidOut byRows inArray depth := by
  have place : (ArrayUnion.arrayOfArrays settings types).LaidOut true false 0 := by
    apply laidOut_arrayOfArrays
    · intro type member
      obtain ⟨otherRows, otherInArray, otherDepth, place⟩ := somewhere type member
      exact LaidOut.everywhere type place (oneLine type member) _ _ _
    · exact fun type member => (single type member).1
    · intro type member properties depth isObject
      have impossible := oneLine type member
      rw [isObject] at impossible
      cases impossible
  apply LaidOut.everywhere _ place
  rw [← Bool.not_eq_true]
  intro spans
  obtain ⟨type, member, typeSpans⟩ := exists_spansLines_of_arrayOfArrays single spans
  rw [oneLine type member] at typeSpans
  cases typeSpans

end Unions

end TypeExpr

end SampleTypes
