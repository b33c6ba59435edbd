import SampleTypes.Proofs.Indenting
import SampleTypes.Proofs.Variants

/-!
# Types laid out deeper

The text of a type that is laid out some steps deeper is its text with every line indented by as many steps.
Indenting keeps apart what is different and keeps the order of texts, so whatever is chosen or sorted by texts
comes out the same at every depth, only deeper.
-/

namespace SampleTypes

theorem Settings.blanks_add (settings : Settings) {depth : Int} (nonnegative : 0 ≤ depth) (steps : Nat) :
    settings.blanks (depth + steps) = settings.blanks steps ++ settings.blanks depth := by
  have sum : (depth + steps).toNat = (steps : Int).toNat + depth.toNat := by omega
  rw [blanks, blanks, blanks, sum, Nat.add_mul, List.replicate_add]

namespace Layout

abbrev IndentsBy (settings : Settings) (steps : Nat) :=
  Indents (settings.blanks steps)

theorem blank_of_mem_blanks {settings : Settings} {depth : Int} {character : Char}
    (member : character ∈ settings.blanks depth) : character = ' ' ∨ character = '\t' := by
  rw [List.eq_of_mem_replicate member]
  cases settings.indentType with
  | space => exact .inl rfl
  | tab => exact .inr rfl

variable (settings : Settings) (steps : Nat)

theorem indents_line (depth : Int) (nonnegative : 0 ≤ depth) :
    IndentsBy settings steps .type ('\n' :: settings.blanks depth)
      ('\n' :: settings.blanks (depth + steps)) .type := by
  rw [settings.blanks_add nonnegative]
  apply Indents.breakLine (by simp)
  apply Indents.quiet
  intro character member
  rcases blank_of_mem_blanks member with rfl | rfl <;> simp

theorem indents_lineOfObject (depth : Int) (nonnegative : 0 ≤ depth) :
    IndentsBy settings steps .ending ('\n' :: settings.blanks depth)
      ('\n' :: settings.blanks (depth + steps)) .name := by
  rw [settings.blanks_add nonnegative]
  apply Indents.breakLine (by simp)
  apply Indents.inName
  intro character member
  rcases blank_of_mem_blanks member with rfl | rfl <;> simp

theorem indents_separator {depth : Int} {multiline : Bool} (nonnegative : multiline = true → 0 ≤ depth) :
    IndentsBy settings steps .type (separator settings depth multiline)
      (separator settings (if multiline then depth + steps else depth) multiline) .type := by
  cases multiline with
  | false => exact Indents.quiet (by simp [separator])
  | true =>
      have deeper : depth + steps + 1 = depth + 1 + steps := by omega
      have below := nonnegative rfl
      simp only [separator, if_true, deeper]
      apply Indents.cons (by simp)
      apply Indents.cons (by simp)
      exact indents_line settings steps (depth + 1) (by omega)

theorem indents_around {element result : List Char} (grouped : Bool)
    (indents : IndentsBy settings steps .type element result .type) :
    IndentsBy settings steps .type (around settings grouped element) (around settings grouped result)
      .type := by
  unfold around
  cases settings.arrayStyle with
  | generic =>
      apply Indents.append (Indents.quiet (by simp))
      exact indents.append (Indents.quiet (by simp))
  | brackets =>
      cases grouped with
      | false => exact indents.append (Indents.quiet (by simp))
      | true =>
          apply Indents.cons (by simp)
          exact indents.append (Indents.quiet (by simp))

/-- What stands between a name and the end of a property. -/
theorem indents_afterName {value result : List Char} (start : Place) (optional : Bool)
    (indents : IndentsBy settings steps .type value result .type) :
    IndentsBy settings steps start (afterName optional value) (afterName optional result) .ending := by
  have ends : IndentsBy settings steps .type (value ++ [';']) (result ++ [';']) .ending :=
    indents.append (Indents.cons (by simp) Indents.nil)
  have mark : IndentsBy settings steps start (if optional then ['?'] else [])
      (if optional then ['?'] else []) (start.after (if optional then ['?'] else [])) := by
    cases optional with
    | false => exact Indents.nil
    | true => exact Indents.sameLine (by simp)
  apply Indents.append mark
  apply Indents.cons (by simp)
  apply Indents.cons (by simp)
  have typeBehind (place : Place) : (place.behind ':').behind ' ' = .type := by
    cases place <;> rfl
  rw [typeBehind]
  exact ends

end Layout

namespace TypeExpr

/-- The type laid out some steps deeper. -/
def deepen (steps : Nat) (type : TypeExpr) : TypeExpr :=
  type.mapDepths (· + steps) fun depth => depth

def deepenMembers (steps : Nat) (members : List TypeExpr) : List TypeExpr :=
  mapDepthsMembers (· + steps) (fun depth => depth) members

def deepenProperties (steps : Nat) (properties : List (Property TypeExpr)) : List (Property TypeExpr) :=
  mapDepthsProperties (· + steps) (fun depth => depth) properties

theorem deepenMembers_eq_map (steps : Nat) (members : List TypeExpr) :
    deepenMembers steps members = members.map (deepen steps) :=
  mapDepthsMembers_eq_map members

def deepenProperty (steps : Nat) (property : Property TypeExpr) : Property TypeExpr :=
  ⟨property.key, property.value.deepen steps, property.optional⟩

theorem deepenProperties_eq_map (steps : Nat) (properties : List (Property TypeExpr)) :
    deepenProperties steps properties = properties.map (deepenProperty steps) :=
  mapDepthsProperties_eq_map properties

theorem deepen_object (steps : Nat) (properties : List (Property TypeExpr)) (depth : Int) :
    (object properties depth).deepen steps =
      .object (deepenProperties steps properties) (depth + steps) :=
  rfl

mutual

/-- Whether nothing that is laid out on several lines is at a negative depth. -/
def DepthsNonnegative : TypeExpr → Prop
  | .primitive _ | .callable | .circular => True
  | .record value => value.DepthsNonnegative
  | .array element => element.DepthsNonnegative
  | .object properties depth => 0 ≤ depth ∧ PropertyDepthsNonnegative properties
  | .union members depth multiline => (multiline = true → 0 ≤ depth) ∧ MemberDepthsNonnegative members

def MemberDepthsNonnegative : List TypeExpr → Prop
  | [] => True
  | member :: members => member.DepthsNonnegative ∧ MemberDepthsNonnegative members

def PropertyDepthsNonnegative : List (Property TypeExpr) → Prop
  | [] => True
  | ⟨_, value, _⟩ :: properties => value.DepthsNonnegative ∧ PropertyDepthsNonnegative properties

end

theorem memberDepthsNonnegative_iff {members : List TypeExpr} :
    MemberDepthsNonnegative members ↔ ∀ member ∈ members, member.DepthsNonnegative := by
  induction members with
  | nil => simp [MemberDepthsNonnegative]
  | cons member members induction => simp [MemberDepthsNonnegative, induction]

theorem propertyDepthsNonnegative_iff {properties : List (Property TypeExpr)} :
    PropertyDepthsNonnegative properties ↔ ∀ property ∈ properties, property.value.DepthsNonnegative := by
  induction properties with
  | nil => simp [PropertyDepthsNonnegative]
  | cons property properties induction => simp [PropertyDepthsNonnegative, induction]

section Text

variable (settings : Settings) (steps : Nat)

theorem isGrouped_deepen (type : TypeExpr) : (type.deepen steps).isGrouped = type.isGrouped := by
  cases type <;> rfl

/-- The element of an array is indented like a type by itself. -/
theorem indents_elementChars {element : TypeExpr} (nonnegative : element.DepthsNonnegative)
    (indents : Layout.IndentsBy settings steps .type (element.chars settings)
      ((element.deepen steps).chars settings) .type) :
    Layout.IndentsBy settings steps .type (element.elementChars settings)
      ((element.deepen steps).elementChars settings) .type := by
  cases element with
  | union members depth multiline =>
      cases multiline with
      | false => exact indents
      | true =>
          have below : 0 ≤ depth := nonnegative.1 rfl
          have deeper : depth + steps + 1 = depth + 1 + steps := by omega
          have opening := Layout.indents_line settings steps (depth + 1) (by omega)
          have closing := Layout.indents_line settings steps depth below
          rw [← deeper] at opening
          exact opening.append (indents.append closing)
  | _ => exact indents

mutual

/-- The text of a deeper type is the indented text of the type. -/
theorem indents_chars (type : TypeExpr) (regular : type.Regular) (nonnegative : type.DepthsNonnegative) :
    Layout.IndentsBy settings steps .type (type.chars settings) ((type.deepen steps).chars settings)
      .type := by
  cases type with
  | primitive name =>
      have isQuiet : ∀ name ∈ primitiveNames, ∀ character ∈ name.toList,
          character ≠ '\n' ∧ character ≠ '\x7b' ∧ character ≠ ';' := by
        simp [primitiveNames]
      exact .quiet (isQuiet name regular)
  | callable => exact .quiet (by simp [chars, render])
  | circular => exact .quiet (by simp [chars, render])
  | record value =>
      have inner := indents_chars value regular nonnegative
      change Layout.IndentsBy settings steps .type _ ((record (value.deepen steps)).chars settings) _
      rw [chars_record, chars_record]
      have head : Layout.IndentsBy settings steps .type Layout.recordHead Layout.recordHead .type :=
        .quiet (by simp [Layout.recordHead])
      exact head.append (inner.append (.quiet (by simp)))
  | array element =>
      have inner := indents_chars element regular nonnegative
      change Layout.IndentsBy settings steps .type _ ((array (element.deepen steps)).chars settings) _
      rw [chars_array, chars_array, isGrouped_deepen]
      apply Layout.indents_around
      exact indents_elementChars settings steps nonnegative inner
  | object properties depth =>
      have below : 0 ≤ depth := nonnegative.1
      have inner := indents_properties properties regular.2 nonnegative.2 depth below
      have someProperties : deepenProperties steps properties ≠ [] := by
        rw [deepenProperties_eq_map]
        simpa using regular.1
      rw [deepen_object, chars_object settings regular.1, chars_object settings someProperties]
      apply Layout.Indents.cons (by simp)
      apply Layout.Indents.append inner
      have closing := Layout.indents_lineOfObject settings steps depth below
      exact closing.append (.cons (by simp) .nil)
  | union members depth multiline =>
      match members, regular, nonnegative with
      | [], regular, _ => exact absurd regular.1 (by simp)
      | first :: others, regular, nonnegative =>
          have firstIndents := indents_chars first regular.2.2.1 nonnegative.2.1
          have othersIndent := indents_members others regular.2.2.2 nonnegative.2.2 depth multiline
            nonnegative.1
          change Layout.IndentsBy settings steps .type _
            ((union (first.deepen steps :: deepenMembers steps others)
              (if multiline then depth + steps else depth) multiline).chars settings) _
          rw [chars_union, chars_union]
          exact firstIndents.append othersIndent

theorem indents_members (members : List TypeExpr) (regular : RegularMembers members)
    (nonnegative : MemberDepthsNonnegative members) (depth : Int) (multiline : Bool)
    (below : multiline = true → 0 ≤ depth) :
    Layout.IndentsBy settings steps .type
      (members.flatMap fun member => Layout.separator settings depth multiline ++ member.chars settings)
      ((deepenMembers steps members).flatMap fun member =>
        Layout.separator settings (if multiline then depth + steps else depth) multiline ++
          member.chars settings) .type := by
  cases members with
  | nil => exact .nil
  | cons member members =>
      have memberIndents := indents_chars member regular.2.1 nonnegative.1
      have membersIndent := indents_members members regular.2.2 nonnegative.2 depth multiline below
      have separatorIndents := Layout.indents_separator settings steps below
      exact (separatorIndents.append memberIndents).append membersIndent

theorem indents_properties (properties : List (Property TypeExpr)) (regular : RegularProperties properties)
    (nonnegative : PropertyDepthsNonnegative properties) (depth : Int) (below : 0 ≤ depth) :
    Layout.IndentsBy settings steps .ending (properties.flatMap (propertyChars settings depth))
      ((deepenProperties steps properties).flatMap (propertyChars settings (depth + steps)))
      .ending := by
  cases properties with
  | nil => exact .nil
  | cons property properties =>
      obtain ⟨key, value, optional⟩ := property
      have valueIndents := indents_chars value regular.1 nonnegative.1
      have propertiesIndent := indents_properties properties regular.2 nonnegative.2 depth below
      have line := Layout.indents_lineOfObject settings steps (depth + 1) (by omega)
      have deeper : depth + 1 + steps = depth + steps + 1 := by omega
      rw [deeper] at line
      obtain ⟨place, name⟩ := Layout.Indents.write key
      have behind := Layout.indents_afterName settings steps place optional valueIndents
      have propertyIndents := line.append (name.append behind)
      exact propertyIndents.append propertiesIndent

end

theorem render_deepen {type : TypeExpr} (regular : type.Regular) (nonnegative : type.DepthsNonnegative) :
    (type.deepen steps).render settings =
      Layout.indentedText (settings.blanks steps) (type.render settings) := by
  have characters := (indents_chars settings steps type regular nonnegative).indented_eq
  rw [Layout.indentedText]
  change _ = String.ofList (Layout.indented _ _ (type.chars settings))
  rw [characters, chars, String.ofList_toList]

end Text

/-- Whether the text of the type is indented when the type is laid out deeper. -/
def Deepens (type : TypeExpr) : Prop :=
  type.Regular ∧ type.DepthsNonnegative

section Unions

variable (settings : Settings) (steps : Nat) {types : List TypeExpr}

theorem distinctByText_deepen (each : ∀ type ∈ types, type.Deepens) :
    distinctByText settings (types.map (deepen steps)) = (distinctByText settings types).map (deepen steps) := by
  apply distinctByText_map (Layout.indentedText_strictMono (settings.blanks steps))
  intro type member
  exact render_deepen settings steps (each type member).1 (each type member).2

theorem unionOf_deepen (members : List TypeExpr) :
    unionOf (members.map (deepen steps)) = (unionOf members).deepen steps :=
  unionOf_mapDepths rfl members

theorem sortedUnion_deepen (each : ∀ type ∈ types, type.Deepens) :
    sortedUnion settings (types.map (deepen steps)) = (sortedUnion settings types).deepen steps := by
  have sorted : sortedByText settings (types.map (deepen steps)) =
      (sortedByText settings types).map (deepen steps) := by
    apply sortedByText_map (Layout.indentedText_strictMono (settings.blanks steps))
    intro type member
    exact render_deepen settings steps (each type member).1 (each type member).2
  rw [sortedUnion_eq, sorted, unionOf_deepen, sortedUnion_eq]

end Unions

end TypeExpr

end SampleTypes
