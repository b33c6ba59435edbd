import SampleTypes.TypeExpr.Union

/-!
# Types that differ in depths

A map of depths changes where a type is laid out and nothing else.  It tells the depths of what is laid out on
several lines from those of unions on a single line, which leave no trace in a text.
-/

namespace SampleTypes.TypeExpr

section Map

variable (onLines onOneLine : Int → Int)

mutual

/-- The type with every depth mapped. -/
def mapDepths : TypeExpr → TypeExpr
  | .primitive name => .primitive name
  | .callable => .callable
  | .circular => .circular
  | .record value => .record value.mapDepths
  | .array element => .array element.mapDepths
  | .object properties depth => .object (mapDepthsProperties properties) (onLines depth)
  | .union members depth multiline =>
      .union (mapDepthsMembers members) (if multiline then onLines depth else onOneLine depth) multiline

def mapDepthsMembers : List TypeExpr → List TypeExpr
  | [] => []
  | member :: members => member.mapDepths :: mapDepthsMembers members

def mapDepthsProperties : List (Property TypeExpr) → List (Property TypeExpr)
  | [] => []
  | ⟨key, value, optional⟩ :: properties =>
      ⟨key, value.mapDepths, optional⟩ :: mapDepthsProperties properties

end

end Map

variable {onLines onOneLine : Int → Int}

theorem mapDepthsMembers_eq_map (members : List TypeExpr) :
    mapDepthsMembers onLines onOneLine members = members.map (mapDepths onLines onOneLine) := by
  induction members with
  | nil => rfl
  | cons member members induction => rw [mapDepthsMembers, induction, List.map_cons]

theorem mapDepthsProperties_eq_map (properties : List (Property TypeExpr)) :
    mapDepthsProperties onLines onOneLine properties =
      properties.map fun property =>
        ⟨property.key, property.value.mapDepths onLines onOneLine, property.optional⟩ := by
  induction properties with
  | nil => rfl
  | cons property properties induction => rw [mapDepthsProperties, induction, List.map_cons]

mutual

/-- Whether a type spans lines does not depend on where it is laid out. -/
theorem spansLines_mapDepths (type : TypeExpr) :
    (type.mapDepths onLines onOneLine).spansLines = type.spansLines := by
  cases type with
  | primitive name => rfl
  | callable => rfl
  | circular => rfl
  | record value => rfl
  | array element => exact spansLines_mapDepths element
  | object properties depth => rfl
  | union members depth multiline =>
      rw [mapDepths, spansLines, spansLines, anySpansLines_mapDepths members]

theorem anySpansLines_mapDepths (members : List TypeExpr) :
    anySpansLines (mapDepthsMembers onLines onOneLine members) = anySpansLines members := by
  cases members with
  | nil => rfl
  | cons member members =>
      rw [mapDepthsMembers, anySpansLines, anySpansLines, spansLines_mapDepths member,
        anySpansLines_mapDepths members]

end

theorem unwrapArray_mapDepths (type : TypeExpr) :
    (type.mapDepths onLines onOneLine).unwrapArray =
      type.unwrapArray.map (mapDepths onLines onOneLine) := by
  cases type with
  | array element =>
      cases element with
      | union members depth multiline =>
          rw [mapDepths, mapDepths, unwrapArray, unwrapArray, mapDepthsMembers_eq_map]
      | _ => rfl
  | _ => rfl

/-- A union on a single line is at depth zero, and so is its image if zero is kept. -/
theorem unionOf_mapDepths (fixed : onOneLine 0 = 0) (members : List TypeExpr) :
    unionOf (members.map (mapDepths onLines onOneLine)) = (unionOf members).mapDepths onLines onOneLine := by
  match members with
  | [] =>
      change union [] 0 false = union [] (onOneLine 0) false
      rw [fixed]
  | [member] => rfl
  | first :: second :: others =>
      rw [← mapDepthsMembers_eq_map]
      change union _ 0 false = union _ (onOneLine 0) false
      rw [fixed]

end SampleTypes.TypeExpr
