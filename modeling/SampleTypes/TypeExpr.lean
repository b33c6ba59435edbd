/-!
# Type expressions

The types that sample values are given.  An object type and a union remember the depth at which they are
laid out: the depth of an object is the indentation level of its closing brace, and a union that is written
one member per line keeps its members one level further in.
-/

namespace SampleTypes

/-- A property of an object: its key, what stands for its value, and whether it may be missing. -/
structure Property (α : Type) where
  key : String
  value : α
  optional : Bool := false
  deriving DecidableEq

/-- A type.  The members of a union keep the order they are given in. -/
inductive TypeExpr
  /-- A named type such as `number`, `string` or `null`. -/
  | primitive (name : String)
  /-- A function without arguments whose result is unknown. -/
  | callable
  /-- What stands for a container that is already open further up. -/
  | circular
  /-- An object with arbitrary keys. -/
  | record (value : TypeExpr)
  | array (element : TypeExpr)
  | object (properties : List (Property TypeExpr)) (depth : Int)
  | union (members : List TypeExpr) (depth : Int) (multiline : Bool)

namespace TypeExpr

def unknown : TypeExpr := .primitive "unknown"

def never : TypeExpr := .primitive "never"

def emptyArray : TypeExpr := .array unknown

def emptyObject : TypeExpr := .record never

/-- The type of an object of which nothing has been seen. -/
def anyObject : TypeExpr := .record unknown

/-- The union of the given members; a single member stands for itself. -/
def unionOf (members : List TypeExpr) (depth : Int := 0) (multiline : Bool := false) : TypeExpr :=
  match members with
  | [member] => member
  | _ => .union members depth multiline

/-- The types of an array's elements with one level of array taken off; a type that is no array is kept. -/
def unwrapArray : TypeExpr → List TypeExpr
  | .array (.union members _ _) => members
  | .array element => [element]
  | type => [type]

mutual

def spansLines : TypeExpr → Bool
  | .object _ _ => true
  | .array element => element.spansLines
  | .union members _ multiline => multiline || anySpansLines members
  | .primitive _ | .callable | .circular | .record _ => false

def anySpansLines : List TypeExpr → Bool
  | [] => false
  | member :: members => member.spansLines || anySpansLines members

end

theorem anySpansLines_eq_any (members : List TypeExpr) :
    anySpansLines members = members.any spansLines := by
  induction members with
  | nil => rfl
  | cons member members induction => simp [anySpansLines, induction]

mutual

/-- Structural equality, depths and layout included. -/
def same : TypeExpr → TypeExpr → Bool
  | .primitive left, .primitive right => left == right
  | .callable, .callable => true
  | .circular, .circular => true
  | .record left, .record right => left.same right
  | .array left, .array right => left.same right
  | .object left leftDepth, .object right rightDepth =>
      leftDepth == rightDepth && sameProperties left right
  | .union left leftDepth leftMultiline, .union right rightDepth rightMultiline =>
      leftDepth == rightDepth && leftMultiline == rightMultiline && sameMembers left right
  | _, _ => false

def sameMembers : List TypeExpr → List TypeExpr → Bool
  | [], [] => true
  | left :: lefts, right :: rights => left.same right && sameMembers lefts rights
  | _, _ => false

def sameProperties : List (Property TypeExpr) → List (Property TypeExpr) → Bool
  | [], [] => true
  | ⟨leftKey, left, leftOptional⟩ :: lefts, ⟨rightKey, right, rightOptional⟩ :: rights =>
      leftKey == rightKey && leftOptional == rightOptional && left.same right &&
        sameProperties lefts rights
  | _, _ => false

end

mutual

/-- `same` decides equality. -/
theorem same_iff_eq (left right : TypeExpr) : left.same right = true ↔ left = right := by
  cases left <;> cases right <;>
    simp [same, same_iff_eq, sameMembers_iff_eq, sameProperties_iff_eq, and_comm, and_assoc]

theorem sameMembers_iff_eq (lefts rights : List TypeExpr) :
    sameMembers lefts rights = true ↔ lefts = rights := by
  cases lefts with
  | nil => cases rights <;> simp [sameMembers]
  | cons left lefts =>
      cases rights with
      | nil => simp [sameMembers]
      | cons right rights =>
          simp [sameMembers, same_iff_eq left right, sameMembers_iff_eq lefts rights]

theorem sameProperties_iff_eq (lefts rights : List (Property TypeExpr)) :
    sameProperties lefts rights = true ↔ lefts = rights := by
  cases lefts with
  | nil => cases rights <;> simp [sameProperties]
  | cons left lefts =>
      obtain ⟨leftKey, leftValue, leftOptional⟩ := left
      cases rights with
      | nil => simp [sameProperties]
      | cons right rights =>
          obtain ⟨rightKey, rightValue, rightOptional⟩ := right
          simp [sameProperties, same_iff_eq leftValue rightValue,
            sameProperties_iff_eq lefts rights, and_comm, and_left_comm, and_assoc]

end

instance : DecidableEq TypeExpr := fun left right =>
  decidable_of_iff (left.same right = true) (same_iff_eq left right)

end TypeExpr

end SampleTypes
