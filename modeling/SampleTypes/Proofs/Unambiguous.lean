import SampleTypes.Proofs.Depths
import SampleTypes.Proofs.Reading

/-!
# Texts identify types

Two regular types have the same text only if they have the same normal form.  The normal form forgets no more
than the depths that leave no trace in a text: those of unions on a single line, all of them when there is no
indentation, and the difference between depths so far outside that nothing is indented.
-/

namespace SampleTypes

/-- What a depth leaves of itself in a text. -/
def Settings.level (settings : Settings) (depth : Int) : Int :=
  if settings.indent ≤ 0 then 0 else max depth (-1)

namespace TypeExpr

variable (settings : Settings)

/-- The type with every depth replaced by what is seen of it. -/
def normal (type : TypeExpr) : TypeExpr :=
  type.mapDepths settings.level fun _ => 0

def normalMembers (members : List TypeExpr) : List TypeExpr :=
  mapDepthsMembers settings.level (fun _ => 0) members

def normalProperties (properties : List (Property TypeExpr)) : List (Property TypeExpr) :=
  mapDepthsProperties settings.level (fun _ => 0) properties

theorem normal_record (value : TypeExpr) : (record value).normal settings = .record (value.normal settings) :=
  rfl

theorem normal_array (element : TypeExpr) :
    (array element).normal settings = .array (element.normal settings) :=
  rfl

theorem normal_object (properties : List (Property TypeExpr)) (depth : Int) :
    (object properties depth).normal settings =
      .object (normalProperties settings properties) (settings.level depth) :=
  rfl

theorem normal_union (members : List TypeExpr) (depth : Int) (multiline : Bool) :
    (union members depth multiline).normal settings =
      .union (normalMembers settings members) (if multiline then settings.level depth else 0) multiline :=
  rfl

theorem normalMembers_cons (member : TypeExpr) (members : List TypeExpr) :
    normalMembers settings (member :: members) =
      member.normal settings :: normalMembers settings members :=
  rfl

theorem normalProperties_cons (key : String) (value : TypeExpr) (optional : Bool)
    (properties : List (Property TypeExpr)) :
    normalProperties settings (⟨key, value, optional⟩ :: properties) =
      ⟨key, value.normal settings, optional⟩ :: normalProperties settings properties :=
  rfl

end TypeExpr

namespace Settings

variable (settings : Settings)

/-- Lines that start alike are at the same depth, as far as depths are seen. -/
theorem level_eq_of_blanks_eq {left right : Int}
    (same : settings.blanks (left + 1) = settings.blanks (right + 1)) :
    settings.level left = settings.level right := by
  unfold level
  split
  · rfl
  · rename_i positive
    have lengths : (left + 1).toNat * settings.indent.toNat = (right + 1).toNat * settings.indent.toNat := by
      have equal := congrArg List.length same
      simpa [blanks] using equal
    have steps : (left + 1).toNat = (right + 1).toNat := by
      apply Nat.eq_of_mul_eq_mul_right _ lengths
      omega
    omega

end Settings

namespace TypeExpr

/-- Whether something other than a blank comes first. -/
def Inked (characters : List Char) : Prop :=
  ∃ first others, characters = first :: others ∧ Lexer.isBlank first = false

theorem Inked.append {characters : List Char} (inked : Inked characters) (rest : List Char) :
    Inked (characters ++ rest) := by
  obtain ⟨first, others, rfl, ink⟩ := inked
  exact ⟨first, others ++ rest, rfl, ink⟩

theorem inked_cons {first : Char} (ink : Lexer.isBlank first = false) (others : List Char) :
    Inked (first :: others) :=
  ⟨first, others, rfl, ink⟩

/-- Equal lines that go on with ink have equal indentations. -/
theorem replicate_append_cancel {pad : Char} (blank : Lexer.isBlank pad = true) {left right : Nat}
    {first second : List Char} (firstInked : Inked first) (secondInked : Inked second)
    (same : List.replicate left pad ++ first = List.replicate right pad ++ second) :
    left = right ∧ first = second := by
  induction left generalizing right with
  | zero =>
      cases right with
      | zero => exact ⟨rfl, same⟩
      | succ right =>
          obtain ⟨character, others, rfl, ink⟩ := firstInked
          rw [List.replicate_succ] at same
          cases same
          rw [blank] at ink
          cases ink
  | succ left induction =>
      cases right with
      | zero =>
          obtain ⟨character, others, rfl, ink⟩ := secondInked
          rw [List.replicate_succ] at same
          cases same
          rw [blank] at ink
          cases ink
      | succ right =>
          rw [List.replicate_succ, List.replicate_succ] at same
          obtain ⟨lengths, rest⟩ := induction (List.cons.inj same).2
          exact ⟨congrArg Nat.succ lengths, rest⟩

theorem blanks_append_cancel (settings : Settings) {left right : Int} {first second : List Char}
    (firstInked : Inked first) (secondInked : Inked second)
    (same : settings.blanks left ++ first = settings.blanks right ++ second) :
    settings.blanks left = settings.blanks right ∧ first = second := by
  have blank : Lexer.isBlank settings.indentType.character = true := by
    cases settings.indentType <;> rfl
  obtain ⟨lengths, rest⟩ := replicate_append_cancel blank firstInked secondInked same
  exact ⟨by rw [Settings.blanks, Settings.blanks, lengths], rest⟩

theorem inked_write (key : String) : Inked (PropertyName.write key).toList := by
  unfold PropertyName.write
  split
  · rename_i bare
    obtain ⟨nonempty, allParts⟩ := PropertyName.word_of_standsBare bare
    have split := PropertyName.eq_or_eq_append_newline key.toList
    have word : Inked (PropertyName.withoutFinalNewline key.toList) := by
      cases body : PropertyName.withoutFinalNewline key.toList with
      | nil => exact absurd body nonempty
      | cons first others =>
          have part := allParts first (by simp [body])
          exact inked_cons (Lexer.isBlank_eq_false_of_part part) others
    rcases split with same | longer
    · rw [same]
      exact word
    · rw [longer]
      exact word.append _
  · rw [Text.StringLiteral.encode, String.toList_ofList]
    exact inked_cons rfl _

theorem Inked.not_newline {characters others : List Char} (inked : Inked characters) :
    characters ≠ '\n' :: others := by
  rintro rfl
  obtain ⟨first, rest, same, ink⟩ := inked
  cases same
  cases ink

theorem inked_around (settings : Settings) (grouped : Bool) {element : List Char}
    (inked : grouped = false → Inked element) : Inked (Layout.around settings grouped element) := by
  unfold Layout.around
  cases settings.arrayStyle with
  | generic => exact inked_cons rfl _
  | brackets =>
      cases grouped with
      | true => exact inked_cons rfl _
      | false => exact (inked rfl).append _

theorem elementChars_of_not_grouped (settings : Settings) {element : TypeExpr}
    (single : element.isGrouped = false) : element.elementChars settings = element.chars settings := by
  unfold elementChars
  split
  · cases single
  · rfl

theorem inked_chars (settings : Settings) (type : TypeExpr) (regular : type.Regular) :
    Inked (type.chars settings) := by
  cases type with
  | primitive name =>
      have known : ∀ name ∈ primitiveNames, ∃ first others, name.toList = first :: others ∧
          Lexer.isBlank first = false := by
        simp [primitiveNames, Lexer.isBlank]
      rw [chars_primitive]
      exact known name regular
  | callable => simp [chars, render, Inked, Lexer.isBlank]
  | circular => simp [chars, render, Inked, Lexer.isBlank]
  | record value =>
      rw [chars_record]
      exact inked_cons rfl _
  | array element =>
      rw [chars_array]
      apply inked_around
      intro single
      rw [elementChars_of_not_grouped settings single]
      exact inked_chars settings element regular
  | object properties depth =>
      rw [chars_object settings regular.1]
      exact inked_cons rfl _
  | union members depth multiline =>
      cases members with
      | nil => exact absurd regular.1 (by simp)
      | cons first others =>
          rw [chars_union]
          exact (inked_chars settings first regular.2.2.1).append _

/-- Texts of the two types at the beginning of the same characters end together, and the types look alike. -/
def Cancels (settings : Settings) (left right : TypeExpr) : Prop :=
  ∀ first second, left.chars settings ++ first = right.chars settings ++ second →
    left.normal settings = right.normal settings ∧ first = second

theorem isGrouped_eq_of_written {left right : TypeExpr} (same : left.written = right.written) :
    left.isGrouped = right.isGrouped := by
  cases left <;> cases right <;> first | rfl | cases same

/-- The element of an array is on lines of its own or not; either way it ends in one place. -/
theorem Cancels.element {settings : Settings} {left right : TypeExpr}
    (cancels : Cancels settings left right) (leftInked : Inked (left.chars settings))
    (rightInked : Inked (right.chars settings)) {first second : List Char} (firstInked : Inked first)
    (secondInked : Inked second)
    (same : left.elementChars settings ++ first = right.elementChars settings ++ second) :
    left.normal settings = right.normal settings ∧ first = second := by
  unfold elementChars at same
  split at same
  · rename_i leftMembers leftDepth
    split at same
    · rename_i rightMembers rightDepth
      simp only [List.cons_append, List.append_assoc] at same
      obtain ⟨-, bodies⟩ := blanks_append_cancel settings (leftInked.append _) (rightInked.append _)
        (List.cons.inj same).2
      obtain ⟨alike, closings⟩ := cancels _ _ bodies
      obtain ⟨-, rests⟩ := blanks_append_cancel settings firstInked secondInked
        (List.cons.inj closings).2
      exact ⟨alike, rests⟩
    · exact absurd same.symm (rightInked.append _).not_newline
  · split at same
    · exact absurd same (leftInked.append _).not_newline
    · exact cancels _ _ same

theorem Cancels.record {settings : Settings} {left right : TypeExpr}
    (cancels : Cancels settings left right) : Cancels settings (.record left) (.record right) := by
  intro first second same
  simp only [chars_record, List.append_assoc] at same
  obtain ⟨alike, closings⟩ := cancels _ _ (List.append_cancel_left same)
  refine ⟨?_, (List.cons.inj closings).2⟩
  rw [normal_record, normal_record, alike]

theorem Cancels.array {settings : Settings} {left right : TypeExpr}
    (cancels : Cancels settings left right) (grouped : left.isGrouped = right.isGrouped)
    (leftInked : Inked (left.chars settings)) (rightInked : Inked (right.chars settings)) :
    Cancels settings (.array left) (.array right) := by
  intro first second same
  have element {first second : List Char} (firstInked : Inked first) (secondInked : Inked second)
      (same : left.elementChars settings ++ first = right.elementChars settings ++ second) :=
    cancels.element leftInked rightInked firstInked secondInked same
  rw [chars_array, chars_array, ← grouped] at same
  unfold Layout.around at same
  rw [normal_array, normal_array]
  cases style : settings.arrayStyle with
  | generic =>
      simp only [style, List.append_assoc] at same
      obtain ⟨alike, closings⟩ := element (inked_cons rfl first) (inked_cons rfl second)
        (List.append_cancel_left same)
      exact ⟨congrArg TypeExpr.array alike, (List.cons.inj closings).2⟩
  | brackets =>
      cases parentheses : left.isGrouped with
      | true =>
          simp only [style, parentheses, if_true, List.cons_append, List.append_assoc] at same
          obtain ⟨alike, closings⟩ := element (inked_cons rfl _) (inked_cons rfl _)
            (List.cons.inj same).2
          exact ⟨congrArg TypeExpr.array alike, by simpa using closings⟩
      | false =>
          simp only [style, parentheses, Bool.false_eq_true, if_false, List.append_assoc] at same
          obtain ⟨alike, closings⟩ := element (inked_cons rfl _) (inked_cons rfl _) same
          exact ⟨congrArg TypeExpr.array alike, by simpa using closings⟩

/-- The first member of a union is followed by the further members, each behind the separator. -/
def MembersCancel (settings : Settings) (left right : List TypeExpr) : Prop :=
  ∀ (leftDepth rightDepth : Int) (leftMultiline rightMultiline : Bool) (first second : List Char),
    (left.flatMap fun member =>
        Layout.separator settings leftDepth leftMultiline ++ member.chars settings) ++ first =
      (right.flatMap fun member =>
        Layout.separator settings rightDepth rightMultiline ++ member.chars settings) ++ second →
    normalMembers settings left = normalMembers settings right ∧ first = second ∧
      (left ≠ [] → leftMultiline = rightMultiline ∧
        (leftMultiline = true → settings.level leftDepth = settings.level rightDepth))

theorem separator_cancel (settings : Settings) {leftDepth rightDepth : Int}
    {leftMultiline rightMultiline : Bool} {first second : List Char} (firstInked : Inked first)
    (secondInked : Inked second)
    (same : Layout.separator settings leftDepth leftMultiline ++ first =
      Layout.separator settings rightDepth rightMultiline ++ second) :
    first = second ∧ leftMultiline = rightMultiline ∧
      (leftMultiline = true → settings.level leftDepth = settings.level rightDepth) := by
  unfold Layout.separator at same
  cases leftMultiline with
  | false =>
      cases rightMultiline with
      | false =>
          refine ⟨by simpa using same, rfl, ?_⟩
          rintro ⟨⟩
      | true => simp at same
  | true =>
      cases rightMultiline with
      | false => simp at same
      | true =>
          simp only [if_true, List.cons_append, List.cons.injEq, true_and] at same
          obtain ⟨blanks, rest⟩ := blanks_append_cancel settings firstInked secondInked same
          exact ⟨rest, rfl, fun _ => settings.level_eq_of_blanks_eq blanks⟩

theorem membersCancel_nil (settings : Settings) : MembersCancel settings [] [] := by
  intro leftDepth rightDepth leftMultiline rightMultiline first second same
  exact ⟨rfl, same, fun nonempty => absurd rfl nonempty⟩

theorem MembersCancel.cons {settings : Settings} {left right : TypeExpr} {lefts rights : List TypeExpr}
    (cancels : Cancels settings left right) (leftInked : Inked (left.chars settings))
    (rightInked : Inked (right.chars settings)) (others : MembersCancel settings lefts rights) :
    MembersCancel settings (left :: lefts) (right :: rights) := by
  intro leftDepth rightDepth leftMultiline rightMultiline first second same
  simp only [List.flatMap_cons, List.append_assoc] at same
  obtain ⟨members, multiline, level⟩ := separator_cancel settings (leftInked.append _)
    (rightInked.append _) same
  obtain ⟨alike, further⟩ := cancels _ _ members
  obtain ⟨othersAlike, rest, -⟩ := others _ _ _ _ _ _ further
  refine ⟨?_, rest, fun _ => ⟨multiline, level⟩⟩
  rw [normalMembers_cons, normalMembers_cons, alike, othersAlike]

theorem MembersCancel.union {settings : Settings} {left right : TypeExpr} {lefts rights : List TypeExpr}
    {leftDepth rightDepth : Int} {leftMultiline rightMultiline : Bool}
    (cancels : Cancels settings left right) (others : MembersCancel settings lefts rights)
    (several : lefts ≠ []) :
    Cancels settings (.union (left :: lefts) leftDepth leftMultiline)
      (.union (right :: rights) rightDepth rightMultiline) := by
  intro first second same
  simp only [chars_union, List.append_assoc] at same
  obtain ⟨alike, further⟩ := cancels _ _ same
  obtain ⟨othersAlike, rest, layouts⟩ := others _ _ _ _ _ _ further
  obtain ⟨multiline, level⟩ := layouts several
  refine ⟨?_, rest⟩
  rw [normal_union, normal_union, normalMembers_cons, normalMembers_cons, alike, othersAlike,
    ← multiline]
  cases leftMultiline with
  | false => rfl
  | true => simp [level rfl]

theorem ofList_word_ne_encode {key : String} (bare : PropertyName.standsBare key = true) (other : String) :
    String.ofList (PropertyName.withoutFinalNewline key.toList) ≠ Text.StringLiteral.encode other := by
  intro same
  have characters := String.ofList_injective same
  have part := (PropertyName.word_of_standsBare bare).2 '"' (by rw [characters]; simp)
  cases part

/-- A bare name with or without a line break behind it ends where a mark comes. -/
theorem word_append_cancel {word left right : List Char} {first second : Char} {firsts seconds : List Char}
    (firstMark : first ≠ '\n') (secondMark : second ≠ '\n')
    (leftWord : left = word ∨ left = word ++ ['\n']) (rightWord : right = word ∨ right = word ++ ['\n'])
    (same : left ++ first :: firsts = right ++ second :: seconds) :
    left = right ∧ first :: firsts = second :: seconds := by
  rcases leftWord with rfl | rfl
  · rcases rightWord with rfl | rfl
    · exact ⟨rfl, List.append_cancel_left same⟩
    · rw [List.append_assoc] at same
      exact absurd (List.cons.inj (List.append_cancel_left same)).1 firstMark
  · rcases rightWord with rfl | rfl
    · rw [List.append_assoc] at same
      exact absurd (List.cons.inj (List.append_cancel_left same)).1.symm secondMark
    · exact ⟨rfl, List.append_cancel_left same⟩

/-- The name of a property ends where a mark comes. -/
theorem write_append_cancel {left right : String} (written : writtenKey left = writtenKey right)
    {first second : Char} {firsts seconds : List Char} (firstMark : first ≠ '\n')
    (secondMark : second ≠ '\n')
    (same : (PropertyName.write left).toList ++ first :: firsts =
      (PropertyName.write right).toList ++ second :: seconds) :
    left = right ∧ first :: firsts = second :: seconds := by
  unfold writtenKey at written
  unfold PropertyName.write at same
  cases leftBare : PropertyName.standsBare left with
  | true =>
      cases rightBare : PropertyName.standsBare right with
      | true =>
          simp only [leftBare, rightBare, if_true] at written same
          have rightWord := PropertyName.eq_or_eq_append_newline right.toList
          rw [← String.ofList_injective written] at rightWord
          obtain ⟨keys, rest⟩ := word_append_cancel firstMark secondMark
            (PropertyName.eq_or_eq_append_newline left.toList) rightWord same
          exact ⟨String.toList_inj.mp keys, rest⟩
      | false =>
          simp only [leftBare, rightBare, if_true, Bool.false_eq_true, if_false] at written
          exact absurd written (ofList_word_ne_encode leftBare right)
  | false =>
      cases rightBare : PropertyName.standsBare right with
      | true =>
          simp only [leftBare, rightBare, if_true, Bool.false_eq_true, if_false] at written
          exact absurd written.symm (ofList_word_ne_encode rightBare left)
      | false =>
          simp only [leftBare, rightBare, Bool.false_eq_true, if_false] at written same
          rw [written] at same
          exact ⟨Text.StringLiteral.encode_injective written, List.append_cancel_left same⟩

/-- Properties go on until the line of the closing brace. -/
def PropertiesCancel (settings : Settings) (left right : List (Property TypeExpr)) : Prop :=
  ∀ (leftDepth rightDepth : Int) (first second : List Char),
    left.flatMap (propertyChars settings leftDepth) ++
        '\n' :: (settings.blanks leftDepth ++ '\x7d' :: first) =
      right.flatMap (propertyChars settings rightDepth) ++
        '\n' :: (settings.blanks rightDepth ++ '\x7d' :: second) →
    normalProperties settings left = normalProperties settings right ∧ first = second ∧
      (left ≠ [] → settings.level leftDepth = settings.level rightDepth)

theorem propertiesCancel_nil (settings : Settings) : PropertiesCancel settings [] [] := by
  intro leftDepth rightDepth first second same
  obtain ⟨-, rest⟩ := blanks_append_cancel settings (inked_cons rfl _) (inked_cons rfl _)
    (List.cons.inj same).2
  exact ⟨rfl, (List.cons.inj rest).2, fun nonempty => absurd rfl nonempty⟩

theorem afterName_cancel {leftOptional rightOptional : Bool} {left right first second : List Char}
    (optional : leftOptional = rightOptional)
    (same : Layout.afterName leftOptional left ++ first = Layout.afterName rightOptional right ++ second) :
    left ++ ';' :: first = right ++ ';' :: second := by
  unfold Layout.afterName at same
  rw [optional] at same
  simpa using same

theorem afterName_begins (optional : Bool) (value : List Char) :
    ∃ first others, Layout.afterName optional value = first :: others ∧ first ≠ '\n' := by
  cases optional with
  | true => exact ⟨_, _, rfl, by simp⟩
  | false => exact ⟨_, _, rfl, by simp⟩

/-- Of two properties with the same written name, the names and what is before the values are the same. -/
theorem name_append_cancel {leftKey rightKey : String} {leftOptional rightOptional : Bool}
    {left right first second : List Char} (key : writtenKey leftKey = writtenKey rightKey)
    (optional : leftOptional = rightOptional)
    (same : (PropertyName.write leftKey).toList ++ (Layout.afterName leftOptional left ++ first) =
      (PropertyName.write rightKey).toList ++ (Layout.afterName rightOptional right ++ second)) :
    leftKey = rightKey ∧ left ++ ';' :: first = right ++ ';' :: second := by
  obtain ⟨leftMark, leftBehind, leftBegins, leftNoBreak⟩ := afterName_begins leftOptional left
  obtain ⟨rightMark, rightBehind, rightBegins, rightNoBreak⟩ := afterName_begins rightOptional right
  rw [leftBegins, rightBegins] at same
  obtain ⟨keys, behind⟩ := write_append_cancel key leftNoBreak rightNoBreak same
  refine ⟨keys, afterName_cancel optional ?_⟩
  rw [leftBegins, rightBegins]
  exact behind

theorem PropertiesCancel.cons {settings : Settings} {left right : Property TypeExpr}
    {lefts rights : List (Property TypeExpr)} (key : writtenKey left.key = writtenKey right.key)
    (optional : left.optional = right.optional) (cancels : Cancels settings left.value right.value)
    (others : PropertiesCancel settings lefts rights) :
    PropertiesCancel settings (left :: lefts) (right :: rights) := by
  intro leftDepth rightDepth first second same
  simp only [List.flatMap_cons, propertyChars, List.cons_append, List.append_assoc] at same
  obtain ⟨blanks, names⟩ := blanks_append_cancel settings ((inked_write left.key).append _)
    ((inked_write right.key).append _) (List.cons.inj same).2
  obtain ⟨keys, values⟩ := name_append_cancel key optional names
  obtain ⟨alike, further⟩ := cancels _ _ values
  obtain ⟨othersAlike, rest, -⟩ := others _ _ _ _ (List.cons.inj further).2
  refine ⟨?_, rest, fun _ => settings.level_eq_of_blanks_eq blanks⟩
  obtain ⟨leftKey, leftValue, leftOptional⟩ := left
  obtain ⟨rightKey, rightValue, rightOptional⟩ := right
  change leftKey = rightKey at keys
  change leftOptional = rightOptional at optional
  change leftValue.normal settings = rightValue.normal settings at alike
  rw [normalProperties_cons, normalProperties_cons, keys, optional, alike, othersAlike]

theorem PropertiesCancel.object {settings : Settings} {lefts rights : List (Property TypeExpr)}
    {leftDepth rightDepth : Int} (leftNonempty : lefts ≠ []) (rightNonempty : rights ≠ [])
    (cancel : PropertiesCancel settings lefts rights) :
    Cancels settings (.object lefts leftDepth) (.object rights rightDepth) := by
  intro first second same
  rw [chars_object settings leftNonempty, chars_object settings rightNonempty] at same
  simp only [List.cons_append, List.append_assoc, List.nil_append] at same
  obtain ⟨alike, rest, level⟩ := cancel _ _ _ _ (List.cons.inj same).2
  refine ⟨?_, rest⟩
  rw [normal_object, normal_object, alike, level leftNonempty]

mutual

/-- Of two regular types that say the same, the texts end together only if the types look alike. -/
theorem cancels (settings : Settings) (left right : TypeExpr) (leftRegular : left.Regular)
    (rightRegular : right.Regular) (written : left.written = right.written) :
    Cancels settings left right := by
  cases left with
  | primitive name =>
      cases right <;> try cases written
      intro first second same
      exact ⟨rfl, List.append_cancel_left same⟩
  | callable =>
      cases right <;> try cases written
      intro first second same
      exact ⟨rfl, List.append_cancel_left same⟩
  | circular =>
      cases right <;> try cases written
      intro first second same
      exact ⟨rfl, List.append_cancel_left same⟩
  | record value =>
      cases right with
      | record other =>
          have values : value.written = other.written := (Written.record.inj written).2
          exact (cancels settings value other leftRegular rightRegular values).record
      | _ => cases written
  | array element =>
      cases right with
      | array other =>
          have elements : element.written = other.written := Written.array.inj written
          exact (cancels settings element other leftRegular rightRegular elements).array
            (isGrouped_eq_of_written elements) (inked_chars settings element leftRegular)
            (inked_chars settings other rightRegular)
      | _ => cases written
  | object properties depth =>
      cases right with
      | object others otherDepth =>
          have parts : writtenProperties properties = writtenProperties others :=
            Written.object.inj written
          exact (propertiesCancel settings properties others leftRegular.2 rightRegular.2 parts).object
            leftRegular.1 rightRegular.1
      | _ => cases written
  | union members depth multiline =>
      cases right with
      | union others otherDepth otherMultiline =>
          have parts : writtenMembers members = writtenMembers others := Written.union.inj written
          match members, others, leftRegular, rightRegular, parts with
          | left :: second :: lefts, right :: rights, leftRegular, rightRegular, parts =>
              have first := cancels settings left right leftRegular.2.2.1 rightRegular.2.2.1
                (List.cons.inj parts).1
              have further := membersCancel settings (second :: lefts) rights leftRegular.2.2.2
                rightRegular.2.2.2 (List.cons.inj parts).2
              exact further.union first (by simp)
          | [], _, leftRegular, _, _ => exact absurd leftRegular.1 (by simp)
          | [_], _, leftRegular, _, _ => exact absurd leftRegular.1 (by simp)
      | _ => cases written

theorem membersCancel (settings : Settings) (lefts rights : List TypeExpr)
    (leftRegular : RegularMembers lefts) (rightRegular : RegularMembers rights)
    (written : writtenMembers lefts = writtenMembers rights) : MembersCancel settings lefts rights := by
  cases lefts with
  | nil =>
      cases rights with
      | nil => exact membersCancel_nil settings
      | cons right rights => cases written
  | cons left lefts =>
      cases rights with
      | nil => cases written
      | cons right rights =>
          have first := cancels settings left right leftRegular.2.1 rightRegular.2.1
            (List.cons.inj written).1
          have others := membersCancel settings lefts rights leftRegular.2.2 rightRegular.2.2
            (List.cons.inj written).2
          exact others.cons first (inked_chars settings left leftRegular.2.1)
            (inked_chars settings right rightRegular.2.1)

theorem propertiesCancel (settings : Settings) (lefts rights : List (Property TypeExpr))
    (leftRegular : RegularProperties lefts) (rightRegular : RegularProperties rights)
    (written : writtenProperties lefts = writtenProperties rights) :
    PropertiesCancel settings lefts rights := by
  cases lefts with
  | nil =>
      cases rights with
      | nil => exact propertiesCancel_nil settings
      | cons right rights => cases written
  | cons left lefts =>
      cases rights with
      | nil => cases written
      | cons right rights =>
          obtain ⟨leftKey, leftValue, leftOptional⟩ := left
          obtain ⟨rightKey, rightValue, rightOptional⟩ := right
          obtain ⟨first, rest⟩ := List.cons.inj written
          obtain ⟨keys, values, optionals⟩ := Property.mk.inj first
          have value := cancels settings leftValue rightValue leftRegular.1 rightRegular.1 values
          have others := propertiesCancel settings lefts rights leftRegular.2 rightRegular.2 rest
          exact others.cons keys optionals value

end

theorem normal_eq_of_render_eq (settings : Settings) {left right : TypeExpr} (leftRegular : left.Regular)
    (rightRegular : right.Regular) (same : left.render settings = right.render settings) :
    left.normal settings = right.normal settings := by
  have leftRead := Grammar.read_render settings leftRegular (.inl rfl)
  have rightRead := Grammar.read_render settings rightRegular (.inl rfl)
  rw [same, rightRead] at leftRead
  have characters : left.chars settings ++ [] = right.chars settings ++ [] := by
    rw [chars, chars, same]
  exact (cancels settings left right leftRegular rightRegular (Option.some.inj leftRead).symm
    [] [] characters).1

end TypeExpr

end SampleTypes
