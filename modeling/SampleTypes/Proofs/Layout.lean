import SampleTypes.TypeExpr.Render

/-!
# The characters of a layout

The layouts join texts.  Here they are told character by character, with every separator in front of the part
that it separates, so that a proof about a layout goes through the parts one after the other.
-/

namespace SampleTypes

/-- The characters that a line at a depth starts with. -/
def Settings.blanks (settings : Settings) (depth : Int) : List Char :=
  List.replicate (depth.toNat * settings.indent.toNat) settings.indentType.character

theorem Settings.toList_indentation (settings : Settings) (depth : Int) :
    (settings.indentation depth).toList = settings.blanks depth := by
  rw [indentation, String.toList_ofList, blanks]

theorem intercalate_cons_eq_flatMap {α : Type} (separator first : List α) (others : List (List α)) :
    separator.intercalate (first :: others) = first ++ others.flatMap (separator ++ ·) := by
  induction others generalizing first with
  | nil => simp
  | cons other others induction =>
      rw [List.intercalate_cons_cons, induction]
      simp

namespace Layout

/-- What stands between two members of a union. -/
def separator (settings : Settings) (depth : Int) (multiline : Bool) : List Char :=
  if multiline then ' ' :: '|' :: '\n' :: settings.blanks (depth + 1) else [' ', '|', ' ']

theorem toList_union (settings : Settings) (depth : Int) (multiline : Bool) (first : String)
    (others : List String) :
    (union settings depth multiline (first :: others)).toList =
      first.toList ++
        others.flatMap fun other => separator settings depth multiline ++ other.toList := by
  rw [union, String.toList_intercalate, List.map_cons, intercalate_cons_eq_flatMap]
  have separators : (if multiline then " |\n" ++ settings.indentation (depth + 1) else " | ").toList =
      separator settings depth multiline := by
    cases multiline with
    | false => simp [separator]
    | true => simp [separator, Settings.toList_indentation]
  rw [separators, List.flatMap_map]

/-- What follows the name of a property. -/
def afterName (optional : Bool) (value : List Char) : List Char :=
  (if optional then ['?'] else []) ++ ':' :: ' ' :: (value ++ [';'])

theorem toList_property (settings : Settings) (depth : Int) (part : Property String) :
    (property settings depth part).toList =
      settings.blanks (depth + 1) ++ (PropertyName.write part.key).toList ++
        afterName part.optional part.value.toList := by
  cases optional : part.optional with
  | false => simp [property, afterName, Settings.toList_indentation, optional]
  | true => simp [property, afterName, Settings.toList_indentation, optional]

theorem toList_object (settings : Settings) (depth : Int) (properties : List (Property String)) :
    (object settings depth properties).toList =
      '\x7b' :: (properties.flatMap (fun part => '\n' :: (property settings depth part).toList) ++
        '\n' :: (settings.blanks depth ++ ['\x7d'])) := by
  rw [object, String.toList_intercalate, List.cons_append, List.map_cons,
    intercalate_cons_eq_flatMap]
  simp [Settings.toList_indentation, List.flatMap_map]

/-- What stands before the value of a record. -/
def recordHead : List Char :=
  ['R', 'e', 'c', 'o', 'r', 'd', '<', 's', 't', 'r', 'i', 'n', 'g', ' ', '|', ' ', 'n', 'u', 'm', 'b', 'e',
    'r', ' ', '|', ' ', 's', 'y', 'm', 'b', 'o', 'l', ',', ' ']

theorem toList_record (value : String) :
    (record value).toList = recordHead ++ (value.toList ++ ['>']) := by
  have head : "Record<string | number | symbol, ".toList = recordHead := by simp [recordHead]
  unfold record
  simp only [String.toList_append, head]
  simp

/-- What stands around the element of an array, from the characters before and after it. -/
def around (settings : Settings) (grouped : Bool) (element : List Char) : List Char :=
  match settings.arrayStyle with
  | .generic => "Array<".toList ++ (element ++ ['>'])
  | .brackets =>
      if grouped then '(' :: (element ++ [')', '[', ']']) else element ++ ['[', ']']

theorem toList_array (settings : Settings) (grouped : Bool) (element : String) :
    (array settings grouped element).toList = around settings grouped element.toList := by
  cases style : settings.arrayStyle with
  | generic => simp [array, around, style]
  | brackets => cases grouped <;> simp [array, around, style]

theorem toList_multilineArray (settings : Settings) (depth : Int) (element : String) :
    (multilineArray settings depth element).toList =
      around settings true
        ('\n' :: (settings.blanks (depth + 1) ++
          (element.toList ++ '\n' :: settings.blanks depth))) := by
  cases style : settings.arrayStyle with
  | generic => simp [multilineArray, around, style, Settings.toList_indentation]
  | brackets => simp [multilineArray, around, style, Settings.toList_indentation]

end Layout

namespace TypeExpr

/-- The characters of a type's text. -/
def chars (settings : Settings) (type : TypeExpr) : List Char :=
  (type.render settings).toList

/-- The characters of an array's element, on lines of its own if it is a union on several lines. -/
def elementChars (settings : Settings) (element : TypeExpr) : List Char :=
  match element with
  | .union _ depth true =>
      '\n' :: (settings.blanks (depth + 1) ++
        (element.chars settings ++ '\n' :: settings.blanks depth))
  | _ => element.chars settings

/-- A property on a line of its own. -/
def propertyChars (settings : Settings) (depth : Int) (part : Property TypeExpr) : List Char :=
  '\n' :: (settings.blanks (depth + 1) ++ ((PropertyName.write part.key).toList ++
    Layout.afterName part.optional (part.value.chars settings)))

variable (settings : Settings)

theorem chars_primitive (name : String) : (primitive name).chars settings = name.toList := by
  rw [chars, render]

theorem chars_record (value : TypeExpr) :
    (record value).chars settings = Layout.recordHead ++ (value.chars settings ++ ['>']) := by
  rw [chars, render, Layout.toList_record, chars]

theorem chars_array (element : TypeExpr) :
    (array element).chars settings =
      Layout.around settings element.isGrouped (element.elementChars settings) := by
  rw [chars, render]
  cases element with
  | union members depth multiline =>
      cases multiline with
      | true => exact Layout.toList_multilineArray settings depth _
      | false => exact Layout.toList_array settings true _
  | primitive name => exact Layout.toList_array settings false _
  | callable => exact Layout.toList_array settings true _
  | circular => exact Layout.toList_array settings false _
  | record value => exact Layout.toList_array settings true _
  | array element => exact Layout.toList_array settings false _
  | object properties depth => exact Layout.toList_array settings false _

theorem chars_union (first : TypeExpr) (others : List TypeExpr) (depth : Int) (multiline : Bool) :
    (union (first :: others) depth multiline).chars settings =
      first.chars settings ++
        others.flatMap fun other =>
          Layout.separator settings depth multiline ++ other.chars settings := by
  rw [chars, render, renderMembers, renderMembers_eq_map, Layout.toList_union, List.flatMap_map]
  rfl

theorem chars_object {properties : List (Property TypeExpr)} (nonempty : properties ≠ [])
    (depth : Int) :
    (object properties depth).chars settings =
      '\x7b' :: (properties.flatMap (propertyChars settings depth) ++
        '\n' :: (settings.blanks depth ++ ['\x7d'])) := by
  have isNotEmpty : (properties.map fun property =>
      (⟨property.key, property.value.render settings, property.optional⟩ : Property String)).isEmpty =
        false := by
    simpa using nonempty
  rw [chars, render, objectText, renderProperties_eq_map, isNotEmpty, if_neg Bool.false_ne_true,
    Layout.toList_object, List.flatMap_map]
  simp only [Layout.toList_property, List.append_assoc]
  rfl

end TypeExpr

end SampleTypes
