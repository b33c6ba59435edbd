import SampleTypes.Settings
import SampleTypes.TypeExpr
import SampleTypes.TypeExpr.PropertyName

/-!
# Rendering

The text of a type under given settings.  Each constructor has one layout; the layouts of an array, a union
and an object are functions of the texts of their parts, so the recursion only collects texts.
-/

namespace SampleTypes

namespace Layout

def record (value : String) : String :=
  "Record<string | number | symbol, " ++ value ++ ">"

/-- Members side by side, or one on each line one level below the union's depth. -/
def union (settings : Settings) (depth : Int) (multiline : Bool) (members : List String) : String :=
  String.intercalate
    (if multiline then " |\n" ++ settings.indentation (depth + 1) else " | ") members

/-- One line of an object: the property's name, a mark if it is optional, and its type. -/
def property (settings : Settings) (depth : Int) (part : Property String) : String :=
  settings.indentation (depth + 1) ++ PropertyName.write part.key ++
    (if part.optional then "?" else "") ++ ": " ++ part.value ++ ";"

def object (settings : Settings) (depth : Int) (properties : List (Property String)) : String :=
  String.intercalate "\n"
    ("\x7b" :: properties.map (property settings depth) ++
      [settings.indentation depth ++ "\x7d"])

/-- An array whose element is a union with one member on each line, from the text of the union. -/
def multilineArray (settings : Settings) (depth : Int) (element : String) : String :=
  let body := "\n" ++ settings.indentation (depth + 1) ++ element ++ "\n" ++
    settings.indentation depth
  match settings.arrayStyle with
  | .generic => "Array<" ++ body ++ ">"
  | .brackets => "(" ++ body ++ ")[]"

/-- An array on one line; `grouped` says whether the element needs parentheses before the brackets. -/
def array (settings : Settings) (grouped : Bool) (element : String) : String :=
  match settings.arrayStyle with
  | .generic => "Array<" ++ element ++ ">"
  | .brackets => if grouped then "(" ++ element ++ ")[]" else element ++ "[]"

end Layout

namespace TypeExpr

/-- Whether the type needs parentheses before the brackets of an array. -/
def isGrouped : TypeExpr → Bool
  | .union _ _ _ | .callable | .record _ => true
  | _ => false

/-- The text of an array type from its element type and the text of that. -/
def arrayText (settings : Settings) (element : TypeExpr) (text : String) : String :=
  match element with
  | .union _ depth true => Layout.multilineArray settings depth text
  | _ => Layout.array settings element.isGrouped text

/-- The text of an object type from its properties; one without properties is written like an object
without keys. -/
def objectText (settings : Settings) (depth : Int) (properties : List (Property String)) : String :=
  if properties.isEmpty then Layout.record "never" else Layout.object settings depth properties

mutual

def render (settings : Settings) : TypeExpr → String
  | .primitive name => name
  | .callable => "() => unknown"
  | .circular => "/* circular */ unknown"
  | .record value => Layout.record (value.render settings)
  | .array element => arrayText settings element (element.render settings)
  | .object properties depth => objectText settings depth (renderProperties settings properties)
  | .union members depth multiline =>
      Layout.union settings depth multiline (renderMembers settings members)

def renderMembers (settings : Settings) : List TypeExpr → List String
  | [] => []
  | member :: members => member.render settings :: renderMembers settings members

def renderProperties (settings : Settings) :
    List (Property TypeExpr) → List (Property String)
  | [] => []
  | ⟨key, value, optional⟩ :: properties =>
      ⟨key, value.render settings, optional⟩ :: renderProperties settings properties

end

theorem renderMembers_eq_map (settings : Settings) (members : List TypeExpr) :
    renderMembers settings members = members.map (render settings) := by
  induction members with
  | nil => rfl
  | cons member members induction => simp [renderMembers, induction]

theorem renderProperties_eq_map (settings : Settings) (properties : List (Property TypeExpr)) :
    renderProperties settings properties =
      properties.map fun property =>
        ⟨property.key, property.value.render settings, property.optional⟩ := by
  induction properties with
  | nil => rfl
  | cons property properties induction => simp [renderProperties, induction]

end TypeExpr

end SampleTypes
