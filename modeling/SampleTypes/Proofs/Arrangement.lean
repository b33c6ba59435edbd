import SampleTypes.Proofs.Unambiguous

/-!
# Arranged types

Inferred types are not laid out just anywhere: nothing is at a negative depth, a union on a single line is at
depth zero, and a union on several lines is the element of an array.  Regular types that are arranged in this
way have the same text exactly if they are equal, depths included, unless there is no indentation to see a
depth by.
-/

namespace SampleTypes

namespace Settings

variable (settings : Settings)

/-- What is seen of a depth is enough to indent a line. -/
theorem indentation_level (depth : Int) :
    settings.indentation (settings.level depth) = settings.indentation depth := by
  have steps : (settings.level depth).toNat * settings.indent.toNat = depth.toNat * settings.indent.toNat := by
    unfold level
    split
    · have noIndent : settings.indent.toNat = 0 := by omega
      rw [noIndent, Nat.mul_zero, Nat.mul_zero]
    · have same : (max depth (-1)).toNat = depth.toNat := by omega
      rw [same]
  rw [indentation, indentation, steps]

theorem indentation_level_succ (depth : Int) :
    settings.indentation (settings.level depth + 1) = settings.indentation (depth + 1) := by
  have steps : (settings.level depth + 1).toNat * settings.indent.toNat =
      (depth + 1).toNat * settings.indent.toNat := by
    unfold level
    split
    · have noIndent : settings.indent.toNat = 0 := by omega
      rw [noIndent, Nat.mul_zero, Nat.mul_zero]
    · have same : (max depth (-1) + 1).toNat = (depth + 1).toNat := by omega
      rw [same]
  rw [indentation, indentation, steps]

theorem level_eq_self {depth : Int} (indented : 0 < settings.indent) (below : 0 ≤ depth) :
    settings.level depth = depth := by
  rw [level, if_neg (by omega)]
  omega

end Settings

namespace Layout

variable (settings : Settings)

theorem union_level (depth : Int) (multiline : Bool) (members : List String) :
    union settings (if multiline then settings.level depth else 0) multiline members =
      union settings depth multiline members := by
  cases multiline with
  | false => rfl
  | true => simp only [union, if_true, settings.indentation_level_succ]

theorem multilineArray_level (depth : Int) (element : String) :
    multilineArray settings (settings.level depth) element = multilineArray settings depth element := by
  simp only [multilineArray, settings.indentation_level_succ, settings.indentation_level]

theorem object_level (depth : Int) (properties : List (Property String)) :
    object settings (settings.level depth) properties = object settings depth properties := by
  have sameLines : property settings (settings.level depth) = property settings depth := by
    funext part
    rw [property, property, settings.indentation_level_succ]
  rw [object, object, settings.indentation_level, sameLines]

end Layout

namespace TypeExpr

section Normal

variable (settings : Settings)

theorem arrayText_normal (element : TypeExpr) (text : String) :
    arrayText settings (element.normal settings) text = arrayText settings element text := by
  cases element with
  | union members depth multiline =>
      cases multiline with
      | false => rfl
      | true => exact Layout.multilineArray_level settings depth text
  | _ => rfl

mutual

/-- The normal form of a type has the text of the type. -/
theorem render_normal (type : TypeExpr) : (type.normal settings).render settings = type.render settings := by
  cases type with
  | primitive name => rfl
  | callable => rfl
  | circular => rfl
  | record value => rw [normal_record, render, render, render_normal value]
  | array element => rw [normal_array, render, render, render_normal element, arrayText_normal]
  | object properties depth =>
      rw [normal_object, render, render, renderProperties_normal properties, objectText, objectText,
        Layout.object_level]
  | union members depth multiline =>
      rw [normal_union, render, render, renderMembers_normal members, Layout.union_level]

theorem renderMembers_normal (members : List TypeExpr) :
    renderMembers settings (normalMembers settings members) = renderMembers settings members := by
  cases members with
  | nil => rfl
  | cons member members =>
      rw [normalMembers_cons, renderMembers, renderMembers, render_normal member,
        renderMembers_normal members]

theorem renderProperties_normal (properties : List (Property TypeExpr)) :
    renderProperties settings (normalProperties settings properties) =
      renderProperties settings properties := by
  cases properties with
  | nil => rfl
  | cons property properties =>
      obtain ⟨key, value, optional⟩ := property
      rw [normalProperties_cons, renderProperties, renderProperties, render_normal value,
        renderProperties_normal properties]

end

/-- Regular types have the same text exactly if they have the same normal form. -/
theorem render_eq_iff_normal_eq {left right : TypeExpr} (leftRegular : left.Regular)
    (rightRegular : right.Regular) :
    left.render settings = right.render settings ↔ left.normal settings = right.normal settings := by
  constructor
  · exact normal_eq_of_render_eq settings leftRegular rightRegular
  · intro alike
    rw [← render_normal settings left, alike, render_normal settings right]

end Normal

mutual

/-- Whether a type is laid out where inference lays types out; a type may be the element of an array or
not. -/
def Arranged : (inArray : Bool) → TypeExpr → Prop
  | _, .primitive _ | _, .callable | _, .circular => True
  | _, .record value => value.Arranged false
  | _, .array element => element.Arranged true
  | _, .object properties depth => 0 ≤ depth ∧ ArrangedProperties properties
  | inArray, .union members depth multiline =>
      (if multiline then inArray = true ∧ 0 ≤ depth else depth = 0) ∧ ArrangedMembers members

def ArrangedMembers : List TypeExpr → Prop
  | [] => True
  | member :: members => member.Arranged false ∧ ArrangedMembers members

def ArrangedProperties : List (Property TypeExpr) → Prop
  | [] => True
  | ⟨_, value, _⟩ :: properties => value.Arranged false ∧ ArrangedProperties properties

end

theorem arrangedMembers_iff {members : List TypeExpr} :
    ArrangedMembers members ↔ ∀ member ∈ members, member.Arranged false := by
  induction members with
  | nil => simp [ArrangedMembers]
  | cons member members induction => simp [ArrangedMembers, induction]

/-- The type without its depths. -/
def withoutDepths (type : TypeExpr) : TypeExpr :=
  type.mapDepths (fun _ => 0) fun _ => 0

theorem normal_eq_withoutDepths {settings : Settings} (flat : settings.indent ≤ 0) (type : TypeExpr) :
    type.normal settings = type.withoutDepths := by
  have level : settings.level = fun _ => 0 := by
    funext depth
    rw [Settings.level, if_pos flat]
  rw [normal, withoutDepths, level]

mutual

/-- Every depth of an arranged type is seen where lines are indented. -/
theorem normal_eq_self {settings : Settings} (indented : 0 < settings.indent) {inArray : Bool}
    (type : TypeExpr) (arranged : type.Arranged inArray) : type.normal settings = type := by
  cases type with
  | primitive name => rfl
  | callable => rfl
  | circular => rfl
  | record value => rw [normal_record, normal_eq_self indented value arranged]
  | array element => rw [normal_array, normal_eq_self indented element arranged]
  | object properties depth =>
      rw [normal_object, normalProperties_eq_self indented properties arranged.2,
        settings.level_eq_self indented arranged.1]
  | union members depth multiline =>
      have sameMembers := normalMembers_eq_self indented members arranged.2
      cases multiline with
      | false =>
          have zero : depth = 0 := arranged.1
          rw [normal_union, sameMembers, if_neg Bool.false_ne_true, zero]
      | true =>
          have below : inArray = true ∧ 0 ≤ depth := arranged.1
          rw [normal_union, sameMembers, if_pos rfl, settings.level_eq_self indented below.2]

theorem normalMembers_eq_self {settings : Settings} (indented : 0 < settings.indent)
    (members : List TypeExpr) (arranged : ArrangedMembers members) :
    normalMembers settings members = members := by
  cases members with
  | nil => rfl
  | cons member members =>
      rw [normalMembers_cons, normal_eq_self indented member arranged.1,
        normalMembers_eq_self indented members arranged.2]

theorem normalProperties_eq_self {settings : Settings} (indented : 0 < settings.indent)
    (properties : List (Property TypeExpr)) (arranged : ArrangedProperties properties) :
    normalProperties settings properties = properties := by
  cases properties with
  | nil => rfl
  | cons property properties =>
      obtain ⟨key, value, optional⟩ := property
      rw [normalProperties_cons, normal_eq_self indented value arranged.1,
        normalProperties_eq_self indented properties arranged.2]

end

/-- The text of a type identifies it.  Among regular types that are arranged like inferred ones, equal texts
mean equal types if lines are indented, and otherwise types that are equal up to their depths. -/
theorem render_eq_iff (settings : Settings) {left right : TypeExpr} (leftRegular : left.Regular)
    (rightRegular : right.Regular) (leftArranged : left.Arranged false)
    (rightArranged : right.Arranged false) :
    (0 < settings.indent → (left.render settings = right.render settings ↔ left = right)) ∧
      (settings.indent ≤ 0 →
        (left.render settings = right.render settings ↔ left.withoutDepths = right.withoutDepths)) := by
  constructor
  · intro indented
    rw [render_eq_iff_normal_eq settings leftRegular rightRegular,
      normal_eq_self indented left leftArranged, normal_eq_self indented right rightArranged]
  · intro flat
    rw [render_eq_iff_normal_eq settings leftRegular rightRegular, normal_eq_withoutDepths flat,
      normal_eq_withoutDepths flat]

/-- An array of functions and of objects with one property. -/
def pluginList (key : String) : TypeExpr :=
  .array (.union [.object [⟨key, .primitive "number", true⟩] 1, .callable] 0 true)

theorem regular_pluginList (key : String) : (pluginList key).Regular := by
  simp [pluginList, Regular, RegularMembers, RegularProperties, isUnion, primitiveNames]

theorem arranged_pluginList (key : String) : (pluginList key).Arranged false := by
  simp [pluginList, Arranged, ArrangedMembers, ArrangedProperties]

/-- A line break at the end of a bare key does not get lost among the line breaks of the layout. -/
theorem render_eq_iff_pluginList :
    ((pluginList "run\n").Regular ∧ (pluginList "run").Regular ∧ (pluginList "run\n").Arranged false ∧
        (pluginList "run").Arranged false) ∧
      (pluginList "run\n").render {} ≠ (pluginList "run").render {} := by
  refine ⟨⟨regular_pluginList _, regular_pluginList _, arranged_pluginList _, arranged_pluginList _⟩, ?_⟩
  have sameText := (render_eq_iff {} (regular_pluginList "run\n") (regular_pluginList "run")
    (arranged_pluginList _) (arranged_pluginList _)).1 (by decide)
  rw [Ne, sameText]
  decide

end TypeExpr

end SampleTypes
