import SampleTypes.TypeExpr

/-!
# Regular types

The class of types that inference stays in and whose texts can be read back.  It leaves out names that are no
names of types, objects that are laid out like something else, and unions that look like one of their members
or like a longer union.
-/

namespace SampleTypes.TypeExpr

/-- The names of the types of single values. -/
def primitiveNames : List String :=
  ["undefined", "null", "boolean", "number", "bigint", "string", "symbol", "unknown", "never"]

def isUnion : TypeExpr → Bool
  | .union _ _ _ => true
  | _ => false

mutual

/-- A type is regular if its names are known, its objects have properties, and its unions have several
members, none of them a union. -/
def Regular : TypeExpr → Prop
  | .primitive name => name ∈ primitiveNames
  | .callable | .circular => True
  | .record value => value.Regular
  | .array element => element.Regular
  | .object properties _ => properties ≠ [] ∧ RegularProperties properties
  | .union members _ _ => 2 ≤ members.length ∧ RegularMembers members

def RegularMembers : List TypeExpr → Prop
  | [] => True
  | member :: members => member.isUnion = false ∧ member.Regular ∧ RegularMembers members

def RegularProperties : List (Property TypeExpr) → Prop
  | [] => True
  | ⟨_, value, _⟩ :: properties => value.Regular ∧ RegularProperties properties

end

theorem regularMembers_iff {members : List TypeExpr} :
    RegularMembers members ↔ ∀ member ∈ members, member.isUnion = false ∧ member.Regular := by
  induction members with
  | nil => simp [RegularMembers]
  | cons member members induction => simp [RegularMembers, induction, and_assoc]

theorem regularProperties_iff {properties : List (Property TypeExpr)} :
    RegularProperties properties ↔ ∀ property ∈ properties, property.value.Regular := by
  induction properties with
  | nil => simp [RegularProperties]
  | cons property properties induction => simp [RegularProperties, induction]

end SampleTypes.TypeExpr
