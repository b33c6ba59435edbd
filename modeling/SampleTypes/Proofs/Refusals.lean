import SampleTypes.Proofs.Outcomes
import SampleTypes.TypeExpr.Draft

/-!
# Refused drafts

A draft has a text unless a foreign node stands where a type is expected.  A position tells, from the root downwards,
which part is taken at each node, and a draft is refused for the foreign node whose position is read first: neither the
settings nor the depths in the draft have a say in this, as long as lines can be indented to these depths at all.  The
refusal describes the foreign node, unless an integer in the description has too many digits to be written.
-/

namespace SampleTypes.Draft

def isForeign : Draft → Bool
  | .missing | .boolean _ | .integer _ | .text _ | .property _ _ _ => true
  | .primitive _ | .callable | .circular | .record _ | .array _ | .object _ _ | .union _ _ _ => false

/-- The parts of a draft in which a type is expected, from left to right.  A foreign node has no such part, even if it
is a property with a value. -/
def parts : Draft → List Draft
  | .record value => [value]
  | .array element => [element]
  | .object properties _ => properties.map (·.value)
  | .union members _ _ => members
  | .primitive _ | .callable | .circular | .missing | .boolean _ | .integer _ | .text _ | .property _ _ _ => []

/-- A node stands in a draft at a position, the root at the empty one. -/
inductive At : Draft → List Nat → Draft → Prop
  | root {draft : Draft} : At draft [] draft
  | part {draft part node : Draft} {index : Nat} {position : List Nat} (isPart : draft.parts[index]? = some part)
      (below : At part position node) : At draft (index :: position) node

/-- The order in which the positions of a draft are read: a node before what is below it, and what is in an earlier part
before what is in a later one. -/
inductive NotBehind : List Nat → List Nat → Prop
  | above {other : List Nat} : NotBehind [] other
  | left {index otherIndex : Nat} {position other : List Nat} (earlier : index < otherIndex) :
      NotBehind (index :: position) (otherIndex :: other)
  | inside {index : Nat} {position other : List Nat} (notBehind : NotBehind position other) :
      NotBehind (index :: position) (index :: other)

/-- A foreign node stands at some position of the draft. -/
def HasForeign (draft : Draft) : Prop :=
  ∃ position node, draft.At position node ∧ node.isForeign = true

/-- A foreign node comes first: its position is not read behind that of any other one. -/
structure IsFirstForeign (draft : Draft) (position : List Nat) (node : Draft) : Prop where
  stands : draft.At position node
  isForeign : node.isForeign = true
  first {other : List Nat} {otherNode : Draft} (otherStands : draft.At other otherNode)
    (otherIsForeign : otherNode.isForeign = true) : NotBehind position other

variable {draft part node foreign : Draft} {position : List Nat} {settings : Settings}

/-! ## Positions -/

theorem NotBehind.antisymm {other : List Nat} (notBehind : NotBehind position other)
    (notBefore : NotBehind other position) : position = other := by
  induction notBehind with
  | above =>
      cases notBefore
      rfl
  | left earlier =>
      cases notBefore with
      | left later => exact absurd later (Nat.not_lt_of_gt earlier)
      | inside => exact absurd earlier (Nat.lt_irrefl _)
  | inside _ induction =>
      cases notBefore with
      | left impossible => exact absurd impossible (Nat.lt_irrefl _)
      | inside notBefore => rw [induction notBefore]

theorem At.unique {left right : Draft} (leftStands : draft.At position left) (rightStands : draft.At position right) :
    left = right := by
  induction leftStands with
  | root =>
      cases rightStands
      rfl
  | part isPart _ induction =>
      cases rightStands with
      | part otherIsPart below =>
          cases Option.some.inj (isPart.symm.trans otherIsPart)
          exact induction below

theorem IsFirstForeign.unique {leftPosition rightPosition : List Nat} {left right : Draft}
    (leftFirst : draft.IsFirstForeign leftPosition left) (rightFirst : draft.IsFirstForeign rightPosition right) :
    left = right := by
  have notBehind := leftFirst.first rightFirst.stands rightFirst.isForeign
  have notBefore := rightFirst.first leftFirst.stands leftFirst.isForeign
  cases notBehind.antisymm notBefore
  exact leftFirst.stands.unique rightFirst.stands

/-- Properties are written from the texts of their values. -/
theorem renderProperties_eq_map (properties : List (Property Draft)) :
    renderProperties settings properties =
      ((properties.map (·.value)).mapM (render settings)).map
        (List.zipWith (fun property text => ⟨property.key, text, property.optional⟩) properties) := by
  induction properties with
  | nil => rfl
  | cons property properties induction =>
      rw [renderProperties, induction, List.map_cons, List.mapM_cons]
      cases property.value.render settings with
      | error obstacle => rfl
      | ok text => cases (properties.map (·.value)).mapM (render settings) <;> rfl

/-- Every line of a draft can be indented. -/
def Indents (settings : Settings) (draft : Draft) : Prop :=
  ∀ position node, draft.At position node →
    ∀ depth, node.depthBefore? = some depth ∨ node.depthBehind? = some depth → canIndent settings depth = true

/-- What may come of writing a draft: a text if it has no foreign node, or else a refusal for the first one, or for a
line that cannot be indented. -/
def Answers (settings : Settings) (draft : Draft) : Except Obstacle String → Prop
  | .ok _ => ¬draft.HasForeign
  | .error (.foreign foreign) => ∃ position, draft.IsFirstForeign position foreign
  | .error .depth => ¬draft.Indents settings

/-- The integer that the description of a draft shows besides those of its parts. -/
def ownInteger? : Draft → Option Int
  | .integer value => some value
  | .object _ depth | .union _ depth _ => some depth
  | _ => none

/-- The parts that are described, which for a property on its own is its value. -/
def described : Draft → List Draft
  | .property _ value _ => [value]
  | draft => draft.parts

/-- The description of a draft shows an integer, by itself or in the description of a part. -/
inductive ShowsInteger : Draft → Int → Prop
  | own {draft : Draft} {value : Int} (isOwn : draft.ownInteger? = some value) : ShowsInteger draft value
  | part {draft part : Draft} {value : Int} (isPart : part ∈ draft.described) (shows : ShowsInteger part value) :
      ShowsInteger draft value

/-- An integer in the description of a draft has too many digits. -/
def IsTooLong (draft : Draft) : Prop :=
  ∃ value, draft.ShowsInteger value ∧ Text.isTooLong value.natAbs = true

theorem isTooLong_iff :
    draft.IsTooLong ↔
      (∃ value, draft.ownInteger? = some value ∧ Text.integerText? value = none) ∨ ∃ part ∈ draft.described, part.IsTooLong := by
  have isNone (value : Int) : Text.integerText? value = none ↔ Text.isTooLong value.natAbs = true := by
    simp [Text.integerText?]
  simp only [isNone]
  constructor
  · rintro ⟨value, shows, tooLong⟩
    cases shows with
    | own isOwn => exact .inl ⟨value, isOwn, tooLong⟩
    | part isPart shows => exact .inr ⟨_, isPart, value, shows, tooLong⟩
  · rintro (⟨value, isOwn, tooLong⟩ | ⟨part, isPart, value, shows, tooLong⟩)
    · exact ⟨value, .own isOwn, tooLong⟩
    · exact ⟨value, .part isPart shows, tooLong⟩

/-- Without an integer of its own a draft is described if all its parts are. -/
theorem isTooLong_iff_of_parts (noInteger : draft.ownInteger? = none) :
    draft.IsTooLong ↔ ∃ part ∈ draft.described, part.IsTooLong := by
  rw [isTooLong_iff, noInteger]
  simp

theorem bind_eq_none_iff {α β : Type} {part : Option α} (join : α → β) :
    (do return join (← part)) = none ↔ part = none := by
  cases part <;> simp

theorem bind_bind_eq_none_iff {α β γ : Type} {first : Option α} {second : Option β} (join : α → β → γ) :
    (do return join (← first) (← second)) = none ↔ first = none ∨ second = none := by
  cases first <;> cases second <;> simp

mutual

/-- What has no description shows an integer with too many digits. -/
theorem describe?_eq_none_iff (draft : Draft) : draft.describe? = none ↔ draft.IsTooLong := by
  cases draft with
  | primitive | callable | circular | missing | boolean | text =>
      rw [isTooLong_iff_of_parts rfl]
      simp [describe?, described, parts]
  | record inner | array inner | property _ inner =>
      rw [isTooLong_iff_of_parts rfl, describe?, bind_eq_none_iff, describe?_eq_none_iff inner]
      simp [described, parts]
  | integer value =>
      rw [isTooLong_iff]
      simp [describe?, described, parts, ownInteger?]
  | object properties depth =>
      rw [isTooLong_iff, describe?, bind_bind_eq_none_iff, describeProperties?_eq_none_iff properties, or_comm]
      simp [described, parts, ownInteger?]
  | union members depth multiline =>
      rw [isTooLong_iff, describe?, bind_bind_eq_none_iff, describeMembers?_eq_none_iff members, or_comm]
      simp [described, parts, ownInteger?]

theorem describeMembers?_eq_none_iff (members : List Draft) :
    describeMembers? members = none ↔ ∃ member ∈ members, member.IsTooLong := by
  cases members with
  | nil => simp [describeMembers?]
  | cons member members =>
      rw [describeMembers?, bind_bind_eq_none_iff, describe?_eq_none_iff member, describeMembers?_eq_none_iff members]
      simp

theorem describeProperties?_eq_none_iff (properties : List (Property Draft)) :
    describeProperties? properties = none ↔ ∃ property ∈ properties, property.value.IsTooLong := by
  cases properties with
  | nil => simp [describeProperties?]
  | cons property properties =>
      obtain ⟨key, value, optional⟩ := property
      rw [describeProperties?, bind_bind_eq_none_iff, describe?_eq_none_iff value,
        describeProperties?_eq_none_iff properties]
      simp

end

theorem arrayText_of_complete {element : Draft} {type : TypeExpr} (completed : element.complete = .ok type)
    (text : String) : element.arrayText settings text = type.arrayText settings text := by
  cases element with
  | primitive | callable | circular =>
      cases completed
      rfl
  | record | array | object =>
      rw [complete] at completed
      obtain ⟨part, -, same⟩ := Outcome.bind_eq_ok_iff.mp completed
      cases same
      rfl
  | union members depth multiline =>
      rw [complete] at completed
      obtain ⟨part, -, same⟩ := Outcome.bind_eq_ok_iff.mp completed
      cases same
      cases multiline <;> rfl
  | missing | boolean | integer | text | property => cases completed

mutual

/-- A draft with a text is a type with that text. -/
theorem complete_of_render (draft : Draft) {text : String} (written : draft.render settings = .ok text) :
    ∃ type, draft.complete = .ok type ∧ type.render settings = text := by
  cases draft with
  | primitive | callable | circular =>
      cases written
      exact ⟨_, rfl, rfl⟩
  | record value =>
      obtain ⟨valueText, valueWritten, same⟩ := Outcome.bind_eq_ok_iff.mp written
      cases same
      obtain ⟨type, completed, rfl⟩ := complete_of_render value valueWritten
      exact ⟨.record type, by rw [complete, completed]; rfl, rfl⟩
  | array element =>
      obtain ⟨elementText, elementWritten, rest⟩ := Outcome.bind_eq_ok_iff.mp written
      obtain ⟨-, -, same⟩ := Outcome.bind_eq_ok_iff.mp rest
      cases same
      obtain ⟨type, completed, rfl⟩ := complete_of_render element elementWritten
      exact ⟨.array type, by rw [complete, completed]; rfl, (arrayText_of_complete completed _).symm⟩
  | object properties depth =>
      obtain ⟨-, -, rest⟩ := Outcome.bind_eq_ok_iff.mp written
      obtain ⟨texts, propertiesWritten, rest⟩ := Outcome.bind_eq_ok_iff.mp rest
      obtain ⟨-, -, same⟩ := Outcome.bind_eq_ok_iff.mp rest
      cases same
      obtain ⟨types, completed, rfl⟩ := completeProperties_of_render properties propertiesWritten
      exact ⟨.object types depth, by rw [complete, completed]; rfl, rfl⟩
  | union members depth multiline =>
      obtain ⟨-, -, rest⟩ := Outcome.bind_eq_ok_iff.mp written
      obtain ⟨texts, membersWritten, same⟩ := Outcome.bind_eq_ok_iff.mp rest
      cases same
      obtain ⟨types, completed, rfl⟩ := completeMembers_of_render members membersWritten
      exact ⟨.union types depth multiline, by rw [complete, completed]; rfl, rfl⟩
  | missing | boolean | integer | text | property => cases written

theorem completeMembers_of_render (members : List Draft) {texts : List String}
    (written : renderMembers settings members = .ok texts) :
    ∃ types, completeMembers members = .ok types ∧ TypeExpr.renderMembers settings types = texts := by
  cases members with
  | nil =>
      cases written
      exact ⟨[], rfl, rfl⟩
  | cons member members =>
      obtain ⟨first, firstWritten, rest⟩ := Outcome.bind_eq_ok_iff.mp written
      obtain ⟨others, othersWritten, same⟩ := Outcome.bind_eq_ok_iff.mp rest
      cases same
      obtain ⟨type, completed, rfl⟩ := complete_of_render member firstWritten
      obtain ⟨types, othersCompleted, rfl⟩ := completeMembers_of_render members othersWritten
      exact ⟨type :: types, by rw [completeMembers, completed, othersCompleted]; rfl, rfl⟩

theorem completeProperties_of_render (properties : List (Property Draft)) {texts : List (Property String)}
    (written : renderProperties settings properties = .ok texts) :
    ∃ types, completeProperties properties = .ok types ∧ TypeExpr.renderProperties settings types = texts := by
  cases properties with
  | nil =>
      cases written
      exact ⟨[], rfl, rfl⟩
  | cons property properties =>
      obtain ⟨key, value, optional⟩ := property
      obtain ⟨first, firstWritten, rest⟩ := Outcome.bind_eq_ok_iff.mp written
      obtain ⟨others, othersWritten, same⟩ := Outcome.bind_eq_ok_iff.mp rest
      cases same
      obtain ⟨type, completed, rfl⟩ := complete_of_render value firstWritten
      obtain ⟨types, othersCompleted, rfl⟩ := completeProperties_of_render properties othersWritten
      exact ⟨⟨key, type, optional⟩ :: types, by rw [completeProperties, completed, othersCompleted]; rfl, rfl⟩

end

/-- A union with one member on each line, with a property on its own in its first member and a number as its second. -/
def misfits : Draft :=
  .union [.array (.property "k" .missing false), .object [⟨"a", .integer 1, false⟩] 1] 0 true

end SampleTypes.Draft
