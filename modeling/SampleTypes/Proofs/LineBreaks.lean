import SampleTypes.Proofs.Circularity
import SampleTypes.Proofs.Layout

/-!
# Line breaks in the texts of types

Whether the members of a union come on lines of their own is decided while types are inferred, when there are no texts
yet.  The decision rests on the forms of the types.  They foretell the line breaks of a text if no object is without
properties, no union without a second member, and no record has a value but that of an object without keys.
-/

namespace SampleTypes

namespace Layout

theorem newline_mem_around_iff {settings : Settings} {grouped : Bool} {element : List Char} :
    '\n' ∈ around settings grouped element ↔ '\n' ∈ element := by
  cases style : settings.arrayStyle with
  | generic => simp [around, style]
  | brackets => cases grouped <;> simp [around, style]

theorem newline_mem_separator_iff {settings : Settings} {depth : Int} {multiline : Bool} :
    '\n' ∈ separator settings depth multiline ↔ multiline = true := by
  cases multiline with
  | true => simp [separator]
  | false => simp [separator]

end Layout

namespace TypeExpr

variable {settings : Settings}

/-- The form of a type tells whether its text has a line break. -/
def ForetellsLines (settings : Settings) (type : TypeExpr) : Prop :=
  type.spansLines = true ↔ '\n' ∈ type.chars settings

theorem foretellsLines_primitive {name : String} (known : name ∈ primitiveNames) :
    (primitive name).ForetellsLines settings := by
  have onOneLine : ∀ name ∈ primitiveNames, '\n' ∉ name.toList := by decide +kernel
  rw [ForetellsLines, chars_primitive, spansLines]
  simpa using onOneLine name known

theorem foretellsLines_emptyObject : emptyObject.ForetellsLines settings := by
  have onOneLine : '\n' ∉ Layout.recordHead ++ ("never".toList ++ ['>']) := by decide +kernel
  rw [ForetellsLines, emptyObject, never, chars_record, chars_primitive, spansLines]
  simpa using onOneLine

/-- An element is set off by line breaks only if it is on several lines itself. -/
theorem ForetellsLines.array {element : TypeExpr} (foretells : element.ForetellsLines settings) :
    (array element).ForetellsLines settings := by
  rw [ForetellsLines, chars_array, Layout.newline_mem_around_iff, spansLines]
  unfold elementChars
  split
  · simp [spansLines]
  · exact foretells

theorem foretellsLines_object {properties : List (Property TypeExpr)} (nonempty : properties ≠ []) (depth : Int) :
    (object properties depth).ForetellsLines settings := by
  rw [ForetellsLines, chars_object settings nonempty, spansLines]
  simp

/-- A union has line breaks between its members if it is multiline, and otherwise those that are in its members. -/
theorem foretellsLines_union {members : List TypeExpr} (several : 2 ≤ members.length)
    (each : ∀ member ∈ members, member.ForetellsLines settings) (depth : Int) (multiline : Bool) :
    (union members depth multiline).ForetellsLines settings := by
  match members with
  | first :: second :: others =>
      rw [ForetellsLines, chars_union, spansLines, anySpansLines_eq_any, Bool.or_eq_true, List.any_eq_true,
        List.mem_append, List.mem_flatMap]
      constructor
      · rintro (isMultiline | ⟨member, isMember, spans⟩)
        · refine .inr ⟨second, List.mem_cons_self, List.mem_append_left _ ?_⟩
          exact Layout.newline_mem_separator_iff.mpr isMultiline
        · have newline := (each member isMember).mp spans
          rcases List.mem_cons.mp isMember with rfl | later
          · exact .inl newline
          · exact .inr ⟨member, later, List.mem_append_right _ newline⟩
      · rintro (newline | ⟨member, later, newline⟩)
        · exact .inr ⟨first, List.mem_cons_self, (each first List.mem_cons_self).mpr newline⟩
        · rcases List.mem_append.mp newline with inSeparator | inMember
          · exact .inl (Layout.newline_mem_separator_iff.mp inSeparator)
          · have isMember := List.mem_cons_of_mem first later
            exact .inr ⟨member, isMember, (each member isMember).mpr inMember⟩

mutual

theorem foretellsLines (type : TypeExpr) (regular : type.Regular) (recordsEmpty : type.RecordsEmpty) :
    type.ForetellsLines settings := by
  cases type with
  | primitive name => exact foretellsLines_primitive regular
  | callable => simp [ForetellsLines, chars, render, spansLines]
  | circular => simp [ForetellsLines, chars, render, spansLines]
  | record value =>
      rw [recordsEmpty value .here]
      exact foretellsLines_emptyObject
  | array element =>
      exact (foretellsLines element regular fun value occurs => recordsEmpty value (.element occurs)).array
  | object properties depth => exact foretellsLines_object regular.1 depth
  | union members depth multiline =>
      apply foretellsLines_union regular.1
      exact foretellsLines_members members regular.2 fun member isMember value occurs =>
        recordsEmpty value (.member isMember occurs)

theorem foretellsLines_members (members : List TypeExpr) (regular : RegularMembers members)
    (recordsEmpty : ∀ member ∈ members, member.RecordsEmpty) :
    ∀ member ∈ members, member.ForetellsLines settings := by
  cases members with
  | nil => exact List.forall_mem_nil _
  | cons first others =>
      refine List.forall_mem_cons.mpr ⟨?_, ?_⟩
      · exact foretellsLines first regular.2.1 (recordsEmpty first List.mem_cons_self)
      · exact foretellsLines_members others regular.2.2 fun member isMember =>
          recordsEmpty member (List.mem_cons_of_mem first isMember)

end

end TypeExpr

namespace Graph

/-- A value has a type, unless the contents of a container inside it cannot be listed, and the form of every part of
the type tells whether there is a line break in the text of that part. -/
theorem infer_foretells_lines (graph : Graph) (settings : Settings) (value : Value) (depth : Int) :
    (∃ type, graph.infer settings value depth = .ok type ∧
        ∀ part, TypeExpr.Occurs part type → (part.spansLines = true ↔ '\n' ∈ (part.render settings).toList)) ∨
      ∃ fault, graph.infer settings value depth = .error fault ∧ graph.FailsBelow value fault := by
  rcases infer_cases graph settings value depth with ⟨type, inferred⟩ | failed
  · have recordsEmpty : type.RecordsEmpty :=
      Inference.hereditary_of_answer TypeExpr.hereditary_recordsEmpty (answers_of_infer inferred) trivial
    refine .inl ⟨type, inferred, ?_⟩
    intro part occurs
    have regular := (regular_of_infer inferred).of_occurs occurs
    exact TypeExpr.foretellsLines part regular fun value inner => recordsEmpty value (inner.trans occurs)
  · exact .inr failed

end Graph

end SampleTypes
