import Mathlib.Data.String.Basic
import SampleTypes.Proofs.Depths
import SampleTypes.Proofs.Layout
import SampleTypes.Proofs.PropertyNames
import SampleTypes.Proofs.Regular

/-!
# Indenting texts

The text of a type that is laid out deeper has more blanks at the beginning of each line and no other
difference.  A name may end in a line break of its own, which begins no line of the layout, so indenting has to
know where names are.  It keeps the order of texts, whatever the texts are.
-/

namespace SampleTypes

namespace Layout

/-- The places in a text that are indented differently. -/
inductive Place
  | type
  /-- Behind an opening brace or at the end of a property. -/
  | ending
  /-- On a line of an object, up to the end of a bare name. -/
  | name
  deriving DecidableEq

namespace Place

def behind (place : Place) (character : Char) : Place :=
  if character = '\x7b' ∨ character = ';' then .ending
  else
    match place with
    | .type => .type
    | .ending => if character = '\n' then .name else .type
    | .name =>
        if PropertyName.isIdentifierPart character ∨ character ∈ [' ', '\t', '\n'] then .name else .type

def after (place : Place) (characters : List Char) : Place :=
  characters.foldl behind place

end Place

/-- The characters with the padding added to each line but the first. -/
def indented (padding : List Char) : Place → List Char → List Char
  | _, [] => []
  | place, character :: characters =>
      character :: ((if character = '\n' ∧ place ≠ .name then padding else []) ++
        indented padding (place.behind character) characters)

theorem indented_lt_indented {padding left right : List Char} (less : left < right) (place : Place) :
    indented padding place left < indented padding place right := by
  induction left generalizing right place with
  | nil =>
      cases right with
      | nil => exact absurd less (List.lt_irrefl [])
      | cons character characters => exact List.nil_lt_cons _ _
  | cons first others induction =>
      cases right with
      | nil => exact absurd less (List.not_lt_nil _)
      | cons character characters =>
          rw [indented, indented]
          rcases List.cons_lt_cons_iff.mp less with smaller | ⟨same, further⟩
          · exact List.cons_lt_cons_iff.mpr (.inl smaller)
          · rw [same]
            refine List.cons_lt_cons_iff.mpr (.inr ⟨rfl, ?_⟩)
            exact List.append_left_lt (induction further (place.behind character))

/-- A text with the padding added to each line but the first. -/
def indentedText (padding : List Char) (text : String) : String :=
  String.ofList (indented padding .type text.toList)

theorem indentedText_strictMono (padding : List Char) : StrictMono (indentedText padding) := by
  intro left right less
  rw [String.lt_iff_toList_lt] at less ⊢
  rw [indentedText, indentedText, String.toList_ofList, String.toList_ofList]
  exact indented_lt_indented less .type

/-- Indenting makes other characters of some characters on the way from one place to another. -/
structure Indents (padding : List Char) (start : Place) (characters result : List Char)
    (finish : Place) : Prop where
  indented_eq : indented padding start characters = result
  after_eq : start.after characters = finish

namespace Indents

variable {padding first second firstResult secondResult characters result : List Char}
  {start middle finish : Place} {character : Char}

theorem nil : Indents padding start [] [] start :=
  ⟨rfl, rfl⟩

theorem cons (noBreak : character ≠ '\n')
    (rest : Indents padding (start.behind character) characters result finish) :
    Indents padding start (character :: characters) (character :: result) finish := by
  refine ⟨?_, rest.after_eq⟩
  rw [indented, if_neg fun both => noBreak both.1, rest.indented_eq, List.nil_append]

/-- A line break outside names is followed by the padding. -/
theorem breakLine (outside : start ≠ .name)
    (rest : Indents padding (start.behind '\n') characters result finish) :
    Indents padding start ('\n' :: characters) ('\n' :: (padding ++ result)) finish := by
  refine ⟨?_, rest.after_eq⟩
  rw [indented, if_pos ⟨rfl, outside⟩, rest.indented_eq]

theorem append (before : Indents padding start first firstResult middle)
    (behind : Indents padding middle second secondResult finish) :
    Indents padding start (first ++ second) (firstResult ++ secondResult) finish := by
  obtain ⟨firstEqual, middleEqual⟩ := before
  subst firstEqual middleEqual
  induction first generalizing start with
  | nil => exact behind
  | cons character others induction =>
      have rest := induction behind
      refine ⟨?_, rest.after_eq⟩
      rw [List.cons_append, indented, rest.indented_eq, indented, List.cons_append, List.append_assoc]

/-- Characters that leave a type in no way stay as they are. -/
theorem quiet (isQuiet : ∀ character ∈ characters, character ≠ '\n' ∧ character ≠ '\x7b' ∧ character ≠ ';') :
    Indents padding .type characters characters .type := by
  induction characters with
  | nil => exact .nil
  | cons character others induction =>
      obtain ⟨noBreak, noBrace, noEnd⟩ := isQuiet character List.mem_cons_self
      apply cons noBreak
      have stays : Place.type.behind character = .type := by
        simp [Place.behind, noBrace, noEnd]
      rw [stays]
      exact induction fun other member => isQuiet other (List.mem_cons_of_mem _ member)

/-- Characters without a line break stay as they are, and what follows them decides about the place. -/
theorem sameLine (noBreaks : '\n' ∉ characters) :
    Indents padding start characters characters (start.after characters) := by
  induction characters generalizing start with
  | nil => exact .nil
  | cons character others induction =>
      rw [List.mem_cons, not_or] at noBreaks
      exact cons (Ne.symm noBreaks.1) (induction noBreaks.2)

/-- The characters of a bare name and the blanks in front of it stay as they are. -/
theorem inName (isName : ∀ character ∈ characters,
      PropertyName.isIdentifierPart character ∨ character ∈ [' ', '\t', '\n']) :
    Indents padding .name characters characters .name := by
  induction characters with
  | nil => exact .nil
  | cons character others induction =>
      have rest := induction fun other member => isName other (List.mem_cons_of_mem _ member)
      have part := isName character List.mem_cons_self
      have noBrace : ¬(character = '\x7b' ∨ character = ';') := by
        rintro (rfl | rfl) <;> simp [PropertyName.isIdentifierPart, PropertyName.isIdentifierStart] at part
      have stays : Place.name.behind character = .name := by
        rw [Place.behind, if_neg noBrace]
        exact if_pos part
      refine ⟨?_, ?_⟩
      · rw [indented, stays, rest.indented_eq]
        simp
      · rw [Place.after, List.foldl_cons, stays]
        exact rest.after_eq

/-- A name stays as it is. -/
theorem write (key : String) :
    ∃ finish, Indents padding .name (PropertyName.write key).toList (PropertyName.write key).toList
      finish := by
  unfold PropertyName.write
  split
  · rename_i bare
    refine ⟨.name, inName ?_⟩
    obtain ⟨-, allParts⟩ := PropertyName.word_of_standsBare bare
    intro character member
    rcases PropertyName.eq_or_eq_append_newline key.toList with same | longer
    · rw [same] at member
      exact .inl (allParts character member)
    · rw [longer, List.mem_append, List.mem_singleton] at member
      exact member.imp (allParts character) fun same => by simp [same]
  · exact ⟨_, sameLine (Text.StringLiteral.newline_not_mem_encode key)⟩

end Indents

end Layout

end SampleTypes
