import SampleTypes.Proofs.Canonical

/-!
# The order of members

Two types are equal up to order if they have the same constructors, keys and optional marks, and the members of
their unions can be paired off.  Canonical forms decide this for types in which no union repeats a member.
-/

namespace SampleTypes.TypeExpr

mutual

/-- Whether two types differ in no more than their layout and the order of members. -/
def EqualUpToOrder : TypeExpr → TypeExpr → Prop
  | .primitive name, other => other = .primitive name
  | .callable, other => other = .callable
  | .circular, other => other = .circular
  | .record value, other => ∃ otherValue, other = .record otherValue ∧ value.EqualUpToOrder otherValue
  | .array element, other =>
      ∃ otherElement, other = .array otherElement ∧ element.EqualUpToOrder otherElement
  | .object properties _, other =>
      ∃ others depth, other = .object others depth ∧ PropertiesEqualUpToOrder properties others
  | .union members _ _, other =>
      ∃ others depth multiline, other = .union others depth multiline ∧ MembersEqualUpToOrder members others

/-- Whether some members can be paired off with others. -/
def MembersEqualUpToOrder : List TypeExpr → List TypeExpr → Prop
  | [], others => others = []
  | member :: members, others =>
      ∃ before partner after, others = before ++ partner :: after ∧ member.EqualUpToOrder partner ∧
        MembersEqualUpToOrder members (before ++ after)

def PropertiesEqualUpToOrder : List (Property TypeExpr) → List (Property TypeExpr) → Prop
  | [], others => others = []
  | ⟨key, value, optional⟩ :: properties, others =>
      ∃ otherValue rest, others = ⟨key, otherValue, optional⟩ :: rest ∧ value.EqualUpToOrder otherValue ∧
        PropertiesEqualUpToOrder properties rest

end

mutual

/-- Whether no union has two members with the same canonical form. -/
def Irredundant : TypeExpr → Prop
  | .primitive _ | .callable | .circular => True
  | .record value => value.Irredundant
  | .array element => element.Irredundant
  | .object properties _ => IrredundantProperties properties
  | .union members _ _ => (members.map canonical).Nodup ∧ IrredundantMembers members

def IrredundantMembers : List TypeExpr → Prop
  | [] => True
  | member :: members => member.Irredundant ∧ IrredundantMembers members

def IrredundantProperties : List (Property TypeExpr) → Prop
  | [] => True
  | ⟨_, value, _⟩ :: properties => value.Irredundant ∧ IrredundantProperties properties

end

theorem irredundantMembers_iff {members : List TypeExpr} :
    IrredundantMembers members ↔ ∀ member ∈ members, member.Irredundant := by
  induction members with
  | nil => simp [IrredundantMembers]
  | cons member members induction => simp [IrredundantMembers, induction]

/-- A union that repeats no member stays a union in its canonical form. -/
theorem isUnion_canonical_eq {type : TypeExpr} (regular : type.Regular) (irredundant : type.Irredundant) :
    type.canonical.isUnion = type.isUnion := by
  cases type with
  | union members depth multiline =>
      have comparable := comparable_map_canonical (regularMembers_iff.mp regular.2)
      rw [canonical_union, sortedUnion_eq]
      rcases unionOf_cases (sortedByText {} (members.map canonical)) 0 false with
        ⟨form, alone, -⟩ | ⟨-, same⟩
      · -- All members would have one canonical form.
        have isForm (other : TypeExpr) (member : other ∈ members.map canonical) : other = form := by
          rw [← (Comparable.toldApart comparable).mem_sortedByText_iff, alone] at member
          exact List.mem_singleton.mp member
        have distinct := irredundant.1
        rw [List.eq_replicate_of_mem isForm, List.nodup_replicate, List.length_map] at distinct
        have several := regular.1
        omega
      · rw [same]
        rfl
  | _ => rfl

mutual

/-- Irredundant types with the same canonical form are equal up to order. -/
theorem equalUpToOrder_of_canonical_eq (left right : TypeExpr) (leftRegular : left.Regular)
    (rightRegular : right.Regular) (leftIrredundant : left.Irredundant)
    (rightIrredundant : right.Irredundant) (same : left.canonical = right.canonical) :
    left.EqualUpToOrder right := by
  have bothUnions : left.isUnion = right.isUnion := by
    rw [← isUnion_canonical_eq leftRegular leftIrredundant, same,
      isUnion_canonical_eq rightRegular rightIrredundant]
  cases left with
  | primitive name =>
      cases right with
      | primitive other =>
          cases same
          rfl
      | union members depth multiline => cases bothUnions
      | _ => cases same
  | callable =>
      cases right with
      | callable => rfl
      | union members depth multiline => cases bothUnions
      | _ => cases same
  | circular =>
      cases right with
      | circular => rfl
      | union members depth multiline => cases bothUnions
      | _ => cases same
  | record value =>
      cases right with
      | record other =>
          exact ⟨other, rfl, equalUpToOrder_of_canonical_eq value other leftRegular rightRegular
            leftIrredundant rightIrredundant (record.inj same)⟩
      | union members depth multiline => cases bothUnions
      | _ => cases same
  | array element =>
      cases right with
      | array other =>
          exact ⟨other, rfl, equalUpToOrder_of_canonical_eq element other leftRegular rightRegular
            leftIrredundant rightIrredundant (array.inj same)⟩
      | union members depth multiline => cases bothUnions
      | _ => cases same
  | object properties depth =>
      cases right with
      | object others otherDepth =>
          exact ⟨others, otherDepth, rfl, propertiesEqualUpToOrder_of_canonical_eq properties others
            leftRegular.2 rightRegular.2 leftIrredundant rightIrredundant (object.inj same).1⟩
      | union members depth multiline => cases bothUnions
      | _ => cases same
  | union members depth multiline =>
      cases right with
      | union others otherDepth otherMultiline =>
          refine ⟨others, otherDepth, otherMultiline, rfl, ?_⟩
          apply membersEqualUpToOrder_of_perm members others leftRegular.2 rightRegular.2 leftIrredundant.2
            rightIrredundant.2
          rw [List.perm_ext_iff_of_nodup leftIrredundant.1 rightIrredundant.1]
          intro form
          have leftForms := mem_variants_canonical_iff leftRegular form
          rw [same, mem_variants_canonical_iff rightRegular form] at leftForms
          exact leftForms.symm
      | _ => cases bothUnions

theorem membersEqualUpToOrder_of_perm (members others : List TypeExpr) (regular : RegularMembers members)
    (otherRegular : RegularMembers others) (irredundant : IrredundantMembers members)
    (otherIrredundant : IrredundantMembers others)
    (sameForms : (members.map canonical).Perm (others.map canonical)) :
    MembersEqualUpToOrder members others := by
  cases members with
  | nil => exact List.map_eq_nil_iff.mp sameForms.nil_eq.symm
  | cons member members =>
      obtain ⟨partner, isPartner, sameForm⟩ :=
        List.mem_map.mp (sameForms.mem_iff.mp (List.mem_cons_self : _ ∈ (member :: members).map canonical))
      obtain ⟨before, after, rfl⟩ := List.append_of_mem isPartner
      rw [regularMembers_iff] at otherRegular
      rw [irredundantMembers_iff] at otherIrredundant
      have rest (other : TypeExpr) (isOther : other ∈ before ++ after) : other ∈ before ++ partner :: after := by
        rcases List.mem_append.mp isOther with earlier | later
        · exact List.mem_append_left _ earlier
        · exact List.mem_append_right _ (List.mem_cons_of_mem _ later)
      refine ⟨before, partner, after, rfl, ?_, ?_⟩
      · exact equalUpToOrder_of_canonical_eq member partner regular.2.1 (otherRegular partner isPartner).2
          irredundant.1 (otherIrredundant partner isPartner) sameForm.symm
      · apply membersEqualUpToOrder_of_perm members (before ++ after) regular.2.2
          (regularMembers_iff.mpr fun other isOther => otherRegular other (rest other isOther)) irredundant.2
          (irredundantMembers_iff.mpr fun other isOther => otherIrredundant other (rest other isOther))
        rw [List.map_cons, List.map_append, List.map_cons, sameForm] at sameForms
        rw [List.map_append]
        exact (sameForms.trans List.perm_middle).cons_inv

theorem propertiesEqualUpToOrder_of_canonical_eq (properties others : List (Property TypeExpr))
    (regular : RegularProperties properties) (otherRegular : RegularProperties others)
    (irredundant : IrredundantProperties properties) (otherIrredundant : IrredundantProperties others)
    (same : canonicalProperties properties = canonicalProperties others) :
    PropertiesEqualUpToOrder properties others := by
  cases properties with
  | nil =>
      cases others with
      | nil => rfl
      | cons other others => cases same
  | cons property properties =>
      cases others with
      | nil => cases same
      | cons other others =>
          obtain ⟨key, value, optional⟩ := property
          obtain ⟨otherKey, otherValue, otherOptional⟩ := other
          obtain ⟨sameProperty, sameRest⟩ := List.cons.inj same
          obtain ⟨rfl, sameValue, rfl⟩ := Property.mk.inj sameProperty
          exact ⟨otherValue, others, rfl,
            equalUpToOrder_of_canonical_eq value otherValue regular.1 otherRegular.1 irredundant.1
              otherIrredundant.1 sameValue,
            propertiesEqualUpToOrder_of_canonical_eq properties others regular.2 otherRegular.2 irredundant.2
              otherIrredundant.2 sameRest⟩

end

mutual

/-- Types that are equal up to order have the same canonical form. -/
theorem EqualUpToOrder.canonical_eq (left right : TypeExpr) (leftRegular : left.Regular)
    (equal : left.EqualUpToOrder right) : left.canonical = right.canonical := by
  cases left with
  | primitive name => rw [show right = _ from equal]
  | callable => rw [show right = _ from equal]
  | circular => rw [show right = _ from equal]
  | record value =>
      obtain ⟨other, rfl, equalValue⟩ := equal
      rw [canonical, canonical, EqualUpToOrder.canonical_eq value other leftRegular equalValue]
  | array element =>
      obtain ⟨other, rfl, equalElement⟩ := equal
      rw [canonical, canonical, EqualUpToOrder.canonical_eq element other leftRegular equalElement]
  | object properties depth =>
      obtain ⟨others, otherDepth, rfl, equalProperties⟩ := equal
      rw [canonical, canonical,
        PropertiesEqualUpToOrder.canonical_eq properties others leftRegular.2 equalProperties]
  | union members depth multiline =>
      obtain ⟨others, otherDepth, otherMultiline, rfl, equalMembers⟩ := equal
      have sameForms := MembersEqualUpToOrder.perm members others leftRegular.2 equalMembers
      rw [canonical_union, canonical_union]
      exact (Comparable.toldApart (comparable_map_canonical (regularMembers_iff.mp leftRegular.2))).sortedUnion_eq
        fun form => sameForms.mem_iff

theorem MembersEqualUpToOrder.perm (members others : List TypeExpr) (regular : RegularMembers members)
    (equal : MembersEqualUpToOrder members others) :
    (members.map canonical).Perm (others.map canonical) := by
  cases members with
  | nil =>
      have noOthers : others = [] := equal
      rw [noOthers]
  | cons member members =>
      obtain ⟨before, partner, after, rfl, equalPartner, equalRest⟩ := equal
      have sameForm := EqualUpToOrder.canonical_eq member partner regular.2.1 equalPartner
      have sameRest := MembersEqualUpToOrder.perm members (before ++ after) regular.2.2 equalRest
      rw [List.map_append] at sameRest
      rw [List.map_append, List.map_cons, List.map_cons, sameForm]
      exact (sameRest.cons _).trans List.perm_middle.symm

theorem PropertiesEqualUpToOrder.canonical_eq (properties others : List (Property TypeExpr))
    (regular : RegularProperties properties) (equal : PropertiesEqualUpToOrder properties others) :
    canonicalProperties properties = canonicalProperties others := by
  cases properties with
  | nil => rw [show others = [] from equal]
  | cons property properties =>
      obtain ⟨key, value, optional⟩ := property
      obtain ⟨otherValue, rest, rfl, equalValue, equalRest⟩ := equal
      rw [canonicalProperties, canonicalProperties,
        EqualUpToOrder.canonical_eq value otherValue regular.1 equalValue,
        PropertiesEqualUpToOrder.canonical_eq properties rest regular.2 equalRest]

end

/-- The canonical form decides whether types that repeat no members are equal up to order. -/
theorem equalUpToOrder_iff {left right : TypeExpr} (leftRegular : left.Regular)
    (rightRegular : right.Regular) (leftIrredundant : left.Irredundant)
    (rightIrredundant : right.Irredundant) :
    left.EqualUpToOrder right ↔ left.canonical = right.canonical :=
  ⟨EqualUpToOrder.canonical_eq left right leftRegular,
    equalUpToOrder_of_canonical_eq left right leftRegular rightRegular leftIrredundant rightIrredundant⟩

end SampleTypes.TypeExpr
