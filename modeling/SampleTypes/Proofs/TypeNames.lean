import Mathlib.Data.List.Basic
import SampleTypes.Text.TitleCase
import SampleTypes.TypeName

/-!
# Names of types

The name made of a text depends only on the runs of ASCII letters and digits in the text.  It has a single run, which is
theirs put together.  The texts of which no other name is made are the names: identifiers that start with an upper-case
letter, or with an underscore before a digit, and go on with letters and digits.
-/

namespace SampleTypes.TypeName

/-- The runs of letters and digits in a text, one after the other.  No run can be extended: none is empty, and other
characters stand before it and behind it. -/
inductive HasRuns : List Char → List (List Char) → Prop
  | none {gap : List Char} (apart : ∀ character ∈ gap, character.isAlphanum = false) : HasRuns gap []
  | run {gap run rest : List Char} {others : List (List Char)} (apart : ∀ character ∈ gap, character.isAlphanum = false)
      (nonempty : run ≠ []) (together : ∀ character ∈ run, character.isAlphanum = true)
      (ended : ∀ character ∈ rest.head?, character.isAlphanum = false) (later : HasRuns rest others) :
      HasRuns (gap ++ run ++ rest) (run :: others)

/-- An identifier of ASCII letters, digits and underscores that does not start with a digit. -/
inductive IsIdentifier : List Char → Prop
  | intro {first : Char} {rest : List Char} (starts : first.isAlpha = true ∨ first = '_')
      (goesOn : ∀ character ∈ rest, character.isAlphanum = true ∨ character = '_') : IsIdentifier (first :: rest)

/-- A name starts with an upper-case letter, or with a digit behind an underscore, and has no other underscore. -/
inductive IsName : List Char → Prop
  | word {first : Char} {rest : List Char} (upper : first.isUpper = true)
      (goesOn : ∀ character ∈ rest, character.isAlphanum = true) : IsName (first :: rest)
  | number {digit : Char} {rest : List Char} (isDigit : digit.isDigit = true)
      (goesOn : ∀ character ∈ rest, character.isAlphanum = true) : IsName ('_' :: digit :: rest)

/-! ## Runs -/

section Runs

variable {character : Char} {current gap run rest characters : List Char} {found : List (List Char)}

theorem runsFrom_together (together : ∀ character ∈ run, character.isAlphanum = true) :
    runsFrom current (run ++ rest) = runsFrom (run.reverse ++ current) rest := by
  induction run generalizing current with
  | nil => rfl
  | cons first others induction =>
      obtain ⟨isFirst, areOthers⟩ := List.forall_mem_cons.mp together
      rw [List.cons_append, runsFrom, if_pos isFirst, induction areOthers, List.reverse_cons, List.append_assoc]
      rfl

theorem runsFrom_apart (apart : ∀ character ∈ gap, character.isAlphanum = false) :
    runsFrom [] (gap ++ rest) = runsFrom [] rest := by
  induction gap with
  | nil => rfl
  | cons first others induction =>
      obtain ⟨notFirst, notOthers⟩ := List.forall_mem_cons.mp apart
      rw [List.cons_append, runsFrom, if_neg (Bool.eq_false_iff.mp notFirst)]
      exact induction notOthers

theorem runsFrom_ended (open_ : current ≠ []) (ended : ∀ character ∈ rest.head?, character.isAlphanum = false) :
    runsFrom current rest = current.reverse :: runsFrom [] rest := by
  have isOpen : current.isEmpty = false := by simpa using open_
  cases rest with
  | nil => simp [runsFrom, isOpen]
  | cons first others => simp [runsFrom, isOpen, ended first rfl]

theorem HasRuns.runs_eq (hasRuns : HasRuns characters found) : runs characters = found := by
  induction hasRuns with
  | @none gap apart =>
      have read : runsFrom [] (gap ++ []) = [] := runsFrom_apart apart
      rwa [List.append_nil] at read
  | @run gap run rest others apart nonempty together ended later induction =>
      rw [runs, List.append_assoc, runsFrom_apart apart, runsFrom_together together, List.append_nil,
        runsFrom_ended (by simpa using nonempty) ended, List.reverse_reverse]
      exact congrArg (run :: ·) induction

theorem HasRuns.apart (other : character.isAlphanum = false) (hasRuns : HasRuns characters found) :
    HasRuns (character :: characters) found := by
  cases hasRuns with
  | none apart => exact .none (List.forall_mem_cons.mpr ⟨other, apart⟩)
  | run apart nonempty together ended later =>
      exact .run (List.forall_mem_cons.mpr ⟨other, apart⟩) nonempty together ended later

theorem hasRuns_single (nonempty : run ≠ []) (together : ∀ character ∈ run, character.isAlphanum = true) :
    HasRuns run [run] := by
  have whole := @HasRuns.run [] run [] [] (List.forall_mem_nil _) nonempty together (by simp)
    (.none (List.forall_mem_nil _))
  rwa [List.nil_append, List.append_nil] at whole

/-- A run that is being read ends where the next other character stands. -/
theorem hasRuns_runsFrom (together : ∀ character ∈ current, character.isAlphanum = true) (characters : List Char) :
    HasRuns (current.reverse ++ characters) (runsFrom current characters) := by
  induction characters generalizing current with
  | nil =>
      cases current with
      | nil => exact .none (List.forall_mem_nil _)
      | cons last before =>
          rw [List.append_nil]
          exact hasRuns_single (List.reverse_ne_nil_iff.mpr (List.cons_ne_nil last before))
            fun character member => together character (List.mem_reverse.mp member)
  | cons first others induction =>
      cases isPart : first.isAlphanum with
      | true =>
          rw [runsFrom, if_pos isPart]
          have longer := induction (List.forall_mem_cons.mpr ⟨isPart, together⟩)
          rwa [List.reverse_cons, List.append_assoc] at longer
      | false =>
          have after := (induction (List.forall_mem_nil _)).apart isPart
          rw [runsFrom, if_neg (Bool.eq_false_iff.mp isPart)]
          cases current with
          | nil => exact after
          | cons last before =>
              exact .run (List.forall_mem_nil _) (List.reverse_ne_nil_iff.mpr (List.cons_ne_nil last before))
                (fun character member => together character (List.mem_reverse.mp member)) (by simpa using isPart) after

theorem hasRuns_iff : HasRuns characters found ↔ runs characters = found := by
  constructor
  · exact HasRuns.runs_eq
  · rintro rfl
    exact hasRuns_runsFrom (List.forall_mem_nil _) characters

/-- A run has a character and nothing but letters and digits. -/
theorem HasRuns.of_mem (hasRuns : HasRuns characters found) (member : run ∈ found) :
    run ≠ [] ∧ ∀ character ∈ run, character.isAlphanum = true := by
  induction hasRuns with
  | none => cases member
  | run _ nonempty together _ _ induction =>
      rcases List.mem_cons.mp member with rfl | later
      · exact ⟨nonempty, together⟩
      · exact induction later

end Runs

/-! ## Capitals -/

section Capitals

variable {character : Char}

theorem isAlpha_of_isUpper (upper : character.isUpper = true) : character.isAlpha = true :=
  Bool.or_eq_true_iff.mpr (.inl upper)

theorem toNat_lt_of_isAlphanum (isPart : character.isAlphanum = true) : character.toNat < 128 := by
  rcases Bool.or_eq_true_iff.mp isPart with isAlpha | isDigit
  · rcases Bool.or_eq_true_iff.mp isAlpha with upper | lower
    · have atMost : 65 ≤ character.toNat ∧ character.toNat ≤ 90 := of_decide_eq_true upper
      omega
    · have atMost : character.toNat ≤ 122 := of_decide_eq_true (Bool.and_eq_true_iff.mp lower).2
      omega
  · have atMost : character.toNat ≤ 57 := of_decide_eq_true (Bool.and_eq_true_iff.mp isDigit).2
    omega

/-- What holds of the letters and digits among the first 128 characters holds of all letters and digits. -/
theorem holds_of_isAlphanum {motive : Char → Prop}
    (each : ∀ value < 128, (Char.ofNat value).isAlphanum = true → motive (Char.ofNat value))
    (isPart : character.isAlphanum = true) : motive character := by
  have same := each character.toNat (toNat_lt_of_isAlphanum isPart)
  rw [Char.ofNat_toNat] at same
  exact same isPart

/-- A capital is an upper-case letter or a digit. -/
def IsCapital (character : Char) : Prop :=
  character.isUpper = true ∨ character.isDigit = true

instance : DecidablePred IsCapital := fun character =>
  inferInstanceAs (Decidable (character.isUpper = true ∨ character.isDigit = true))

theorem IsCapital.isAlphanum (capital : IsCapital character) : character.isAlphanum = true := by
  rcases capital with upper | isDigit
  · exact Bool.or_eq_true_iff.mpr (.inl (isAlpha_of_isUpper upper))
  · exact Bool.or_eq_true_iff.mpr (.inr isDigit)

theorem isCapital_toUpper (isPart : character.isAlphanum = true) : IsCapital character.toUpper :=
  holds_of_isAlphanum (motive := fun character => IsCapital character.toUpper) (by decide) isPart

theorem IsCapital.toUpper_eq (capital : IsCapital character) : character.toUpper = character :=
  holds_of_isAlphanum (motive := fun character => IsCapital character → character.toUpper = character) (by decide)
    capital.isAlphanum capital

theorem not_isDigit_of_isUpper (upper : character.isUpper = true) : ¬character.isDigit = true :=
  holds_of_isAlphanum (motive := fun character => character.isUpper = true → ¬character.isDigit = true) (by decide)
    (IsCapital.isAlphanum (.inl upper)) upper

/-- The title case of a letter or digit is its capital. -/
theorem titleCase_of_isAlphanum (isPart : character.isAlphanum = true) :
    Text.titleCase character = [character.toUpper] :=
  holds_of_isAlphanum (motive := fun character => Text.titleCase character = [character.toUpper])
    (by decide +kernel) isPart

/-- A run is capitalised as any text is: its first character is put in title case. -/
theorem toList_capitalizeFirst {run : List Char} (together : ∀ character ∈ run, character.isAlphanum = true) :
    (Text.capitalizeFirst (String.ofList run)).toList = capitalize run := by
  unfold Text.capitalizeFirst
  rw [String.toList_ofList]
  cases run with
  | nil => rfl
  | cons first rest =>
      rw [String.toList_ofList, titleCase_of_isAlphanum (together first List.mem_cons_self)]
      rfl

end Capitals

/-! ## Names -/

/-- The name that starts with a capital, behind an underscore if it is a digit. -/
def spell (first : Char) (rest : List Char) : List Char :=
  if first.isDigit then '_' :: first :: rest else first :: rest

/-- The name made of the given runs. -/
def named (found : List (List Char)) : List Char :=
  match found.flatMap capitalize with
  | [] => "GeneratedType".toList
  | first :: rest => spell first rest

theorem toList_ofText (text : String) : (ofText text).toList = named (runs text.toList) := by
  unfold ofText named
  cases (runs text.toList).flatMap capitalize with
  | nil => rfl
  | cons first rest => exact String.toList_ofList

section Names

variable {first : Char} {rest : List Char} {found : List (List Char)} {characters name : List Char}

theorem named_of_joined (joined : found.flatMap capitalize = first :: rest) : named found = spell first rest := by
  rw [named, joined]

theorem isAlphanum_of_mem_capitalize {run : List Char} (together : ∀ character ∈ run, character.isAlphanum = true) :
    ∀ character ∈ capitalize run, character.isAlphanum = true := by
  cases run with
  | nil => exact List.forall_mem_nil _
  | cons first rest =>
      obtain ⟨isFirst, areRest⟩ := List.forall_mem_cons.mp together
      exact List.forall_mem_cons.mpr ⟨(isCapital_toUpper isFirst).isAlphanum, areRest⟩

/-- The capitalised runs of a text start with a capital and go on with letters and digits. -/
theorem HasRuns.joined (hasRuns : HasRuns characters found) (nonempty : found ≠ []) :
    ∃ first rest, found.flatMap capitalize = first :: rest ∧ IsCapital first ∧
      ∀ character ∈ rest, character.isAlphanum = true := by
  have together : ∀ character ∈ found.flatMap capitalize, character.isAlphanum = true := by
    intro character member
    obtain ⟨run, isRun, inRun⟩ := List.mem_flatMap.mp member
    exact isAlphanum_of_mem_capitalize (hasRuns.of_mem isRun).2 character inRun
  match found with
  | [] => exact absurd rfl nonempty
  | [] :: others => exact absurd rfl (hasRuns.of_mem List.mem_cons_self).1
  | (first :: rest) :: others =>
      have isFirst := (hasRuns.of_mem List.mem_cons_self).2 first List.mem_cons_self
      exact ⟨first.toUpper, rest ++ others.flatMap capitalize, rfl, isCapital_toUpper isFirst,
        (List.forall_mem_cons.mp together).2⟩

theorem isName_spell (capital : IsCapital first) (goesOn : ∀ character ∈ rest, character.isAlphanum = true) :
    IsName (spell first rest) := by
  unfold spell
  split
  · rename_i isDigit
    exact .number isDigit goesOn
  · rename_i notDigit
    exact .word (capital.resolve_right notDigit) goesOn

theorem IsName.exists_spell (isName : IsName name) :
    ∃ first rest, IsCapital first ∧ (∀ character ∈ rest, character.isAlphanum = true) ∧ name = spell first rest := by
  cases isName with
  | @word first rest upper goesOn =>
      exact ⟨first, rest, .inl upper, goesOn, (if_neg (not_isDigit_of_isUpper upper)).symm⟩
  | @number digit rest isDigit goesOn => exact ⟨digit, rest, .inr isDigit, goesOn, (if_pos isDigit).symm⟩

/-- A name has a single run, with the underscore outside of it. -/
theorem hasRuns_spell (capital : IsCapital first) (goesOn : ∀ character ∈ rest, character.isAlphanum = true) :
    HasRuns (spell first rest) [first :: rest] := by
  have single := hasRuns_single (List.cons_ne_nil first rest)
    (List.forall_mem_cons.mpr ⟨capital.isAlphanum, goesOn⟩)
  unfold spell
  split
  · exact single.apart (show '_'.isAlphanum = false by decide)
  · exact single

theorem HasRuns.isName_named (hasRuns : HasRuns characters found) : IsName (named found) := by
  cases found with
  | nil =>
      have spelled : named [] = 'G' :: "eneratedType".toList := by decide +kernel
      have letters : "eneratedType".toList.all Char.isAlphanum = true := by decide +kernel
      rw [spelled]
      exact .word (by decide) (List.all_eq_true.mp letters)
  | cons run others =>
      obtain ⟨first, rest, joined, capital, goesOn⟩ := hasRuns.joined (List.cons_ne_nil run others)
      rw [named_of_joined joined]
      exact isName_spell capital goesOn

theorem HasRuns.hasRuns_named (hasRuns : HasRuns characters found) (nonempty : found ≠ []) :
    HasRuns (named found) [found.flatMap capitalize] := by
  obtain ⟨first, rest, joined, capital, goesOn⟩ := hasRuns.joined nonempty
  rw [named_of_joined joined, joined]
  exact hasRuns_spell capital goesOn

theorem IsName.named_runs (isName : IsName name) : named (runs name) = name := by
  obtain ⟨first, rest, capital, goesOn, rfl⟩ := isName.exists_spell
  have joined : [first :: rest].flatMap capitalize = first :: rest := by
    simp [capitalize, capital.toUpper_eq]
  rw [(hasRuns_spell capital goesOn).runs_eq, named_of_joined joined]

theorem IsName.isIdentifier (isName : IsName name) : IsIdentifier name := by
  cases isName with
  | word upper goesOn =>
      exact .intro (.inl (isAlpha_of_isUpper upper)) fun character member => .inl (goesOn character member)
  | number isDigit goesOn =>
      have isPart := IsCapital.isAlphanum (.inr isDigit)
      exact .intro (.inr rfl)
        (List.forall_mem_cons.mpr ⟨.inl isPart, fun character member => .inl (goesOn character member)⟩)

end Names

theorem isName_ofText (text : String) : IsName (ofText text).toList := by
  rw [toList_ofText]
  exact (hasRuns_iff.mpr rfl).isName_named

/-- The texts that are their own names are the names. -/
theorem ofText_eq_self_iff {name : String} : ofText name = name ↔ IsName name.toList := by
  constructor
  · intro same
    rw [← same]
    exact isName_ofText name
  · intro isName
    rw [← String.toList_inj, toList_ofText]
    exact isName.named_runs

/-- The name made of a text is an identifier that starts with an upper-case letter, or with an underscore before a
digit, and it is its own name.  Texts with the same runs have the same name, and if there are runs, the name has a
single one: theirs put together, each with its first character in title case. -/
theorem ofText_stable (text : String) :
    IsIdentifier (ofText text).toList ∧
      ((∃ first rest, (ofText text).toList = first :: rest ∧ first.isUpper = true) ∨
        ∃ digit rest, (ofText text).toList = '_' :: digit :: rest ∧ digit.isDigit = true) ∧
      ofText (ofText text) = ofText text ∧
      (∀ other found, HasRuns text.toList found → HasRuns other.toList found → ofText text = ofText other) ∧
      ∀ found, HasRuns text.toList found → found ≠ [] → HasRuns (ofText text).toList
        [found.flatMap fun run => (Text.capitalizeFirst (String.ofList run)).toList] := by
  have isName := isName_ofText text
  refine ⟨isName.isIdentifier, ?_, ofText_eq_self_iff.mpr isName, ?_, ?_⟩
  · generalize (ofText text).toList = name at isName
    cases isName with
    | word upper => exact .inl ⟨_, _, rfl, upper⟩
    | number isDigit => exact .inr ⟨_, _, rfl, isDigit⟩
  · intro other found hasRuns otherHasRuns
    rw [← String.toList_inj, toList_ofText, toList_ofText, hasRuns.runs_eq, otherHasRuns.runs_eq]
  · intro found hasRuns nonempty
    have capitals : found.flatMap (fun run => (Text.capitalizeFirst (String.ofList run)).toList) =
        found.flatMap capitalize :=
      List.flatMap_congr fun run isRun => toList_capitalizeFirst (hasRuns.of_mem isRun).2
    rw [capitals, toList_ofText, hasRuns.runs_eq]
    exact hasRuns.hasRuns_named nonempty

/-- Two spellings of the same three runs. -/
theorem ofText_stable_respelled :
    HasRuns "2fa back-up".toList [['2', 'f', 'a'], ['b', 'a', 'c', 'k'], ['u', 'p']] ∧
      HasRuns "«2fa» back_up!".toList [['2', 'f', 'a'], ['b', 'a', 'c', 'k'], ['u', 'p']] ∧
      ofText "2fa back-up" = ofText "«2fa» back_up!" ∧
      HasRuns (ofText "2fa back-up").toList [['2', 'f', 'a', 'B', 'a', 'c', 'k', 'U', 'p']] := by
  have spaced : HasRuns "2fa back-up".toList [['2', 'f', 'a'], ['b', 'a', 'c', 'k'], ['u', 'p']] :=
    hasRuns_iff.mpr (by decide +kernel)
  have quoted : HasRuns "«2fa» back_up!".toList [['2', 'f', 'a'], ['b', 'a', 'c', 'k'], ['u', 'p']] :=
    hasRuns_iff.mpr (by decide +kernel)
  obtain ⟨-, -, -, sameName, put⟩ := ofText_stable "2fa back-up"
  have together := put _ spaced (by simp)
  exact ⟨spaced, quoted, sameName _ _ spaced quoted, together⟩

end SampleTypes.TypeName
